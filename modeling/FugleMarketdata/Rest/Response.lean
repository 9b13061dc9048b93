/-
**What a request comes to.** `core/src/rest/error.rs`, and `HttpErrorContext` of `core/src/errors.rs`.

The transport is a crate: `UreqError` has what the code tells apart in its errors, and the text they
display.

* `droppedBeforeResponse` — the failures after which a GET is sent once more;
* `settle` — the result of a send, from what the transport gave;
* `header_new` — the response kept with an error has every value of every header, whatever its case, and no
  cookie.
-/

import Mathlib.Tactic.Linarith
import FugleMarketdata.Errors
import FugleMarketdata.Lib.Grouping

namespace FugleMarketdata.Errors

open Grouping

/-! ### The response behind an error -/

namespace HttpErrorContext

def REQUEST_ID_HEADER : String := "x-request-id"

/-- Response headers never kept. -/
def EXCLUDED_HEADERS : List String := ["set-cookie"]

/-- One more header of the response. -/
def addHeader (map : Std.TreeMap String String) (header : String × String) : Std.TreeMap String String :=
  let name := header.1.toLower
  if name ∈ EXCLUDED_HEADERS then map
  else map.alter name fun entry =>
    match entry with
    | some joined => some (joined ++ ", " ++ header.2)
    | none => some header.2

/-- Header names are lowercased, repeated headers joined, and `set-cookie` dropped. -/
def new (status : Nat) (body : Option String) (headers : List (String × String)) : HttpErrorContext where
  status
  body
  headers := (headers.foldl addHeader ∅).toList

variable (context : HttpErrorContext)

/-- Value of a header, whatever the case of its name. -/
def header (name : String) : Option String := context.headers.lookup name.toLower

def requestId : Option String := context.header REQUEST_ID_HEADER

/-- The values of a header, joined. -/
def joined : List String → Option String
  | [] => none
  | first :: rest => some (rest.foldl (fun text value => text ++ ", " ++ value) first)

theorem joined_concat (values : List String) (last : String) : joined (values ++ [last]) =
    some (match joined values with
      | some text => text ++ ", " ++ last
      | none => last) := by
  cases values with
  | nil => rfl
  | cons first rest => simp [joined]

/-- The headers of a response that are kept, by their names in lower case. -/
def kept (headers : List (String × String)) : List (String × String) :=
  (headers.map fun header => (header.1.toLower, header.2)).filter fun header =>
    header.1 ∉ EXCLUDED_HEADERS

theorem kept_concat (headers : List (String × String)) (header : String × String) :
    kept (headers ++ [header]) =
      if header.1.toLower ∈ EXCLUDED_HEADERS then kept headers
      else kept headers ++ [(header.1.toLower, header.2)] := by
  unfold kept
  rw [List.map_append, List.filter_append]
  by_cases excluded : header.1.toLower ∈ EXCLUDED_HEADERS
  · rw [if_pos excluded]
    simp [excluded]
  · rw [if_neg excluded]
    simp [excluded]

/-- What the map holds after some headers. -/
theorem getElem?_foldl_addHeader (headers : List (String × String)) (name : String) :
    (headers.foldl addHeader ∅)[name]? = joined (group (kept headers) name) := by
  induction headers using List.reverseRecOn with
  | nil => rfl
  | append_singleton headers header ih =>
    rw [List.foldl_append, List.foldl_cons, List.foldl_nil, kept_concat, addHeader]
    by_cases excluded : header.1.toLower ∈ EXCLUDED_HEADERS
    · rw [if_pos excluded, if_pos excluded, ih]
    · rw [if_neg excluded, if_neg excluded, Std.TreeMap.getElem?_alter, group_concat]
      by_cases same : header.1.toLower = name
      · subst same
        rw [if_pos (by simp), if_pos rfl, ih, joined_concat]
        cases joined (group (kept headers) header.1.toLower) <;> rfl
      · rw [if_neg (by simpa using same), if_neg same, ih]

/-- The headers kept, each name once. -/
def headerMap (headers : List (String × String)) : IndexMap String String where
  entries := (headers.foldl addHeader ∅).toList
  nodup := by
    have distinct := Std.TreeMap.distinct_keys_toList (t := headers.foldl addHeader ∅)
    refine List.pairwise_map.mpr (distinct.imp fun apart same => apart ?_)
    rw [same]
    exact Std.ReflCmp.compare_self

/-- **A header's value is all of its values in the order they came**, whatever the case it is asked in or
came in; a cookie is never kept. -/
theorem header_new (status : Nat) (body : Option String) (headers : List (String × String))
    (name : String) :
    (new status body headers).header name = joined (group (kept headers) name.toLower) := by
  have entry (value : String) : (name.toLower, value) ∈ (headers.foldl addHeader ∅).toList ↔
      joined (group (kept headers) name.toLower) = some value := by
    rw [Std.TreeMap.mem_toList_iff_getElem?_eq_some, getElem?_foldl_addHeader]
  refine Option.ext fun value => ?_
  have found := IndexMap.get?_eq_some (m := headerMap headers) (k := name.toLower) (v := value)
  exact found.trans (entry value)

end HttpErrorContext

end FugleMarketdata.Errors

namespace FugleMarketdata.Rest

open Errors

/-! ### The transport -/

/-- The kinds of I/O failure the code tells apart. -/
inductive IoErrorKind where
  | timedOut
  | wouldBlock
  | unexpectedEof
  | connectionReset
  | connectionAborted
  | brokenPipe
  | invalidInput
  | other
  deriving DecidableEq, Repr

/-- An error of the transport, with the text it displays. -/
inductive UreqError where
  | timeout (text : String)
  | bodyStalled (text : String)
  | io (kind : IoErrorKind) (text : String)
  | other (text : String)
  deriving DecidableEq, Repr

def UreqError.display : UreqError → String
  | timeout text | bodyStalled text | io _ text | other text => text

/-- A response: its status, its headers and, if it can be read as text, its body. -/
structure HttpResponse where
  status : Nat
  headers : List (String × String)
  body : Option String
  deriving DecidableEq, Repr

def statusError (http : HttpErrorContext) : Errors.MarketDataError :=
  let message := http.body.getD ("HTTP " ++ toString http.status)
  if http.status = 401 ∨ http.status = 403 then .authError message (some http)
  else .apiError http.status message (some http)

/-- `is_timeout` of `transport_error`. -/
def UreqError.isTimeout : UreqError → Bool
  | timeout _ | bodyStalled _ => true
  | io kind _ => kind = .timedOut || kind = .wouldBlock
  | other _ => false

def transportError (url : String) (error : UreqError) : Errors.MarketDataError :=
  let message := url ++ ": " ++ error.display
  if error.isTimeout then .timeoutError message else .connectionError message

/-- Whether the peer closed the connection before a full response header arrived. -/
def droppedBeforeResponse : UreqError → Bool
  | .io kind _ => kind = .unexpectedEof || kind = .connectionReset || kind = .connectionAborted ||
      kind = .brokenPipe || kind = .invalidInput
  | _ => false

/-- The end of `send_get`: its result, from what the transport gave. -/
def settle (url : String) (outcome : Except UreqError HttpResponse) :
    Except Errors.MarketDataError HttpResponse :=
  match outcome with
  | .error e => .error (transportError url e)
  | .ok response =>
    if response.status ≥ 400 then
      .error (statusError (.new response.status response.body response.headers))
    else .ok response

/-- Whether what the transport gave is worth another attempt: a failure of its own, or a status that says
to come back. -/
def worthRetrying : Except UreqError HttpResponse → Bool
  | .error _ => true
  | .ok response => retryableStatus response.status

theorem transportError_isRetryable (url : String) (error : UreqError) :
    (transportError url error).isRetryable = true := by
  unfold transportError
  cases error.isTimeout <;> rfl

theorem statusError_isRetryable (http : HttpErrorContext) :
    (statusError http).isRetryable = retryableStatus http.status := by
  unfold statusError
  split
  · rename_i refused
    rcases refused with unauthorized | forbidden
    · exact (congrArg retryableStatus unauthorized).symm
    · exact (congrArg retryableStatus forbidden).symm
  · rfl

theorem settle_isRetryable {url : String} {outcome : Except UreqError HttpResponse}
    {err : Errors.MarketDataError} (failed : settle url outcome = .error err) :
    err.isRetryable = worthRetrying outcome := by
  cases outcome with
  | error error =>
    cases failed
    exact transportError_isRetryable url error
  | ok response =>
    by_cases bad : response.status ≥ 400
    · simp only [settle, if_pos bad] at failed
      cases failed
      exact statusError_isRetryable _
    · simp only [settle, if_neg bad] at failed
      cases failed

end FugleMarketdata.Rest
