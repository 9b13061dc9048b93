/-
**Credentials.** `Auth` of `core/src/rest/auth.rs`, and `AuthRequest` of `core/src/models/subscription.rs`.

* `checkCredentials` — exactly one of three values that are not blank;
* `Auth.fromCredentials`, `Auth.fromEnv` — the credential of a binding's three options, or of the
  environment;
* `provided` — the credentials given that count, by which the check and both requests are told apart
  (`fromCredentials_eq_ok`, `validate_ok_iff`).
-/

import Mathlib.Data.List.ReduceOption
import FugleMarketdata.Errors
import FugleMarketdata.Models.Symbols

namespace FugleMarketdata

/-! ### The source's functions -/

/-- Authentication method for REST API requests. -/
inductive Auth where
  | apiKey (value : String)
  | bearerToken (value : String)
  | sdkToken (value : String)
  deriving DecidableEq, Repr

/-- Message for a missing, blank or ambiguous credential set. -/
def CREDENTIALS_MESSAGE : String :=
  "Provide exactly one non-empty credential: API key, bearer token, or SDK token"

/-- A credential that is empty or only whitespace counts as not provided. -/
def isProvided (value : String) : Bool := !(trim value).isEmpty

def checkCredentials (apiKey bearerToken sdkToken : Option String) :
    Except Errors.MarketDataError Unit :=
  let provided := ([apiKey, bearerToken, sdkToken].reduceOption.filter isProvided).length
  if provided = 1 then .ok () else .error (.configError CREDENTIALS_MESSAGE)

namespace Auth

def secret : Auth → String
  | apiKey value | bearerToken value | sdkToken value => value

def fromCredentials (apiKey bearerToken sdkToken : Option String) :
    Except Errors.MarketDataError Auth := do
  checkCredentials apiKey bearerToken sdkToken
  let provided := fun value : Option String => value.any isProvided
  return if provided apiKey then .apiKey (apiKey.getD "")
    else if provided bearerToken then .bearerToken (bearerToken.getD "")
    else .sdkToken (sdkToken.getD "")

def validate (auth : Auth) : Except Errors.MarketDataError Unit :=
  checkCredentials (some auth.secret) none none

/-- The HTTP header carrying this credential. -/
def header : Auth → String × String
  | apiKey key => ("X-API-KEY", key)
  | bearerToken token => ("Authorization", "Bearer " ++ token)
  | sdkToken token => ("X-SDK-TOKEN", token)

/-- The variables of `from_env`, in the order they are probed. -/
def VARS : List (String × (String → Auth)) :=
  [("FUGLE_API_KEY", .apiKey), ("FUGLE_BEARER_TOKEN", .bearerToken), ("FUGLE_SDK_TOKEN", .sdkToken)]

/-- `from_env`; `env` gives the variables that are set, to text. -/
def fromEnv (env : String → Option String) : Except Errors.MarketDataError Auth :=
  let found := VARS.findSome? fun (name, ctor) =>
    (env name).bind fun value => if isProvided value then some (ctor value) else none
  match found with
  | some auth => .ok auth
  | none => .error (.configError ("No authentication credentials found in environment. " ++
      "Set one of: FUGLE_API_KEY, FUGLE_BEARER_TOKEN, or FUGLE_SDK_TOKEN to a non-empty value."))

end Auth

/-- WebSocket authentication request. -/
structure AuthRequest where
  apikey : Option String := none
  token : Option String := none
  sdkToken : Option String := none
  heartbeatIntervalMs : Option Nat := none
  deriving DecidableEq, Repr

namespace AuthRequest

def withApiKey (apiKey : String) : AuthRequest := { apikey := some apiKey }

def withToken (token : String) : AuthRequest := { token := some token }

def withSdkToken (sdkToken : String) : AuthRequest := { sdkToken := some sdkToken }

def validate (request : AuthRequest) : Except Errors.MarketDataError Unit :=
  checkCredentials request.apikey request.token request.sdkToken

/-- Send the credential in the field matching its kind. -/
def ofAuth : Auth → AuthRequest
  | .apiKey key => withApiKey key
  | .bearerToken token => withToken token
  | .sdkToken token => withSdkToken token

end AuthRequest

/-! ### What is provided -/

/-- The credentials given that are not blank, API key first. -/
def provided (apiKey bearerToken sdkToken : Option String) : List Auth :=
  ((apiKey.filter isProvided).map Auth.apiKey).toList ++
    ((bearerToken.filter isProvided).map Auth.bearerToken).toList ++
      ((sdkToken.filter isProvided).map Auth.sdkToken).toList

/-- A request has exactly one credential that is not blank, this one. -/
def AuthRequest.Carries (request : AuthRequest) (auth : Auth) : Prop :=
  provided request.apikey request.token request.sdkToken = [auth]

/-- What a value given, or left out, comes to. -/
theorem filter_isProvided (value : Option String) :
    (∃ text, value.filter isProvided = some text ∧ value.any isProvided = true ∧ value.getD "" = text) ∨
      value.filter isProvided = none ∧ value.any isProvided = false := by
  cases value with
  | none => exact .inr ⟨rfl, rfl⟩
  | some text =>
    by_cases counts : isProvided text = true
    · exact .inl ⟨text, by simp [Option.filter, counts], by simp [counts], rfl⟩
    · exact .inr ⟨by simp [Option.filter, counts], by simp [counts]⟩

/-- The values that are not blank, of some that may be missing. -/
theorem filter_reduceOption (values : List (Option String)) :
    values.reduceOption.filter isProvided = values.flatMap fun value => (value.filter isProvided).toList := by
  induction values with
  | nil => rfl
  | cons value rest ih =>
    rw [List.flatMap_cons, ← ih]
    cases value with
    | none => rfl
    | some value =>
      by_cases counts : isProvided value = true
      · simp [List.reduceOption_cons_of_some, Option.filter, counts]
      · simp [List.reduceOption_cons_of_some, Option.filter, counts]

section Provided

variable (apiKey bearerToken sdkToken : Option String)

theorem length_provided : ([apiKey, bearerToken, sdkToken].reduceOption.filter isProvided).length =
    (provided apiKey bearerToken sdkToken).length := by
  have mapped (make : String → Auth) (value : Option String) :
      (value.map make).toList.length = value.toList.length := by
    cases value <;> rfl
  rw [filter_reduceOption, provided]
  simp [mapped]

theorem checkCredentials_ok_iff : checkCredentials apiKey bearerToken sdkToken = .ok () ↔
    ∃ auth, provided apiKey bearerToken sdkToken = [auth] := by
  rw [← List.length_eq_one_iff, ← length_provided, checkCredentials]
  split
  · exact iff_of_true rfl ‹_›
  · exact iff_of_false (fun same => by cases same) ‹_›

/-- **A binding's three options make the one credential that is not blank**, of its kind, and none where
more or fewer are given. -/
theorem fromCredentials_eq_ok {auth : Auth} :
    Auth.fromCredentials apiKey bearerToken sdkToken = .ok auth ↔
      provided apiKey bearerToken sdkToken = [auth] := by
  cases checked : checkCredentials apiKey bearerToken sdkToken with
  | error err =>
    refine iff_of_false (fun same => ?_) fun only => ?_
    · rw [Auth.fromCredentials, checked] at same
      cases same
    · rw [(checkCredentials_ok_iff _ _ _).mpr ⟨auth, only⟩] at checked
      cases checked
  | ok _ =>
    obtain ⟨only, same⟩ := (checkCredentials_ok_iff _ _ _).mp checked
    have made : Auth.fromCredentials apiKey bearerToken sdkToken = .ok only := by
      rw [Auth.fromCredentials, checked]
      rw [provided] at same
      -- the first that counts is the only one
      rcases filter_isProvided apiKey with ⟨key, kept, counts, value⟩ | ⟨dropped, blank⟩
      · rw [kept] at same
        have first := (List.cons.inj same).1
        simp [bind, Except.bind, pure, Except.pure, counts, value, ← first]
      · rcases filter_isProvided bearerToken with ⟨token, kept, counts, value⟩ | ⟨droppedToo, blankToo⟩
        · rw [dropped, kept] at same
          have first := (List.cons.inj same).1
          simp [bind, Except.bind, pure, Except.pure, blank, counts, value, ← first]
        · rcases filter_isProvided sdkToken with ⟨token, kept, -, value⟩ | ⟨last, -⟩
          · rw [dropped, droppedToo, kept] at same
            have first := (List.cons.inj same).1
            simp [bind, Except.bind, pure, Except.pure, blank, blankToo, value, ← first]
          · rw [dropped, droppedToo, last] at same
            cases same
    rw [made, same]
    simp

end Provided

theorem Auth.validate_ok_iff (auth : Auth) : auth.validate = .ok () ↔ isProvided auth.secret = true := by
  rw [Auth.validate, checkCredentials_ok_iff, provided]
  by_cases counts : isProvided auth.secret = true
  · simp [Option.filter, counts]
  · simp [Option.filter, counts]

theorem AuthRequest.validate_ok_iff (request : AuthRequest) :
    request.validate = .ok () ↔ ∃ auth, request.Carries auth :=
  checkCredentials_ok_iff _ _ _

/-- The request of a credential carries it exactly when it is not blank. -/
theorem AuthRequest.ofAuth_carries {auth other : Auth} :
    (AuthRequest.ofAuth auth).Carries other ↔ other = auth ∧ isProvided auth.secret = true := by
  cases auth <;> rename_i value <;> by_cases counts : isProvided value = true <;>
    simp [AuthRequest.Carries, AuthRequest.ofAuth, AuthRequest.withApiKey, AuthRequest.withToken,
      AuthRequest.withSdkToken, provided, Auth.secret, Option.filter, counts, eq_comm]

/-- A credential made of a binding's options is one the clients accept. -/
theorem Auth.fromCredentials_valid {apiKey bearerToken sdkToken : Option String} {auth : Auth}
    (made : Auth.fromCredentials apiKey bearerToken sdkToken = .ok auth) : auth.validate = .ok () := by
  have only := (fromCredentials_eq_ok _ _ _).mp made
  have counts : ∀ other ∈ provided apiKey bearerToken sdkToken, isProvided other.secret = true := by
    intro other member
    simp only [provided, List.mem_append, Option.mem_toList, Option.map_eq_some_iff,
      Option.filter_eq_some_iff] at member
    rcases member with (⟨value, ⟨-, counts⟩, rfl⟩ | ⟨value, ⟨-, counts⟩, rfl⟩) | ⟨value, ⟨-, counts⟩, rfl⟩ <;>
      exact counts
  exact auth.validate_ok_iff.mpr (counts auth (by rw [only]; exact List.mem_singleton.mpr rfl))

/-- So is one of the environment. -/
theorem Auth.fromEnv_valid {env : String → Option String} {auth : Auth}
    (made : Auth.fromEnv env = .ok auth) : auth.validate = .ok () := by
  unfold Auth.fromEnv at made
  dsimp only at made
  split at made
  · rename_i found probed
    cases made
    obtain ⟨⟨name, ctor⟩, member, value⟩ := List.exists_of_findSome?_eq_some probed
    obtain ⟨text, -, value⟩ := Option.bind_eq_some_iff.mp value
    obtain ⟨counts, made⟩ := Option.ite_none_right_eq_some.mp value
    cases made
    refine (ctor text).validate_ok_iff.mpr ?_
    have secret : (ctor text).secret = text := by
      simp only [Auth.VARS, List.mem_cons, Prod.mk.injEq, List.not_mem_nil, or_false] at member
      rcases member with ⟨-, rfl⟩ | ⟨-, rfl⟩ | ⟨-, rfl⟩ <;> rfl
    rw [secret]
    exact counts
  · cases made

end FugleMarketdata
