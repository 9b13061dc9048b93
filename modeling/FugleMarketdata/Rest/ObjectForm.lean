/-
**The object form.** `get_with_params` and `query_pairs` of `js/src/client.rs`: a params object becomes the path
and the query of a request.

* `getWithParams` — the source's checks, in its order, on an object that keeps the order of its keys;
* `EndpointSpec.Takes` — the objects an endpoint takes, told without any order;
* `object_accepted` — these and no others are sent, and a refusal names a key;
* `object_sent` — what is sent is what the object asked for, parameter by parameter;
* `quote_flag` — the quote's positional flag beside an object.
-/

import FugleMarketdata.Errors
import FugleMarketdata.Lib.IndexMap
import FugleMarketdata.Lib.Slots
import FugleMarketdata.Models.Message
import FugleMarketdata.Rest.EndpointUrl
import FugleMarketdata.Rest.Params

namespace FugleMarketdata.Rest

open Slots

/-! ### The source's functions -/

/-- Why a call sends nothing. -/
inductive Refusal where
  | rejected (err : Errors.MarketDataError)
  | panicked (msg : String)
  deriving DecidableEq, Repr

/-- A rejection with the unified error fields. -/
def invalid (name reason : String) : Refusal := .rejected (.invalidParameter name reason)

/-- What `get_json` is called with. -/
structure GetJson where
  segments : List String
  query : List (String × String)
  deriving DecidableEq, Repr

/-- The keys a row accepts in the object form, the path parameter first. -/
def acceptedKeys (spec : EndpointSpec) : String :=
  ", ".intercalate (spec.pathParam.toList ++ spec.pathParamAliases ++ spec.names)

def isNull : Value → Bool
  | .null => true
  | _ => false

def scalarToString : Value → Option String
  | .string s => some s
  | .number text => some text
  | .bool b => some (toString b)
  | _ => none

/-- What the loop over the keys has: the pairs, and the wire names with the keys they were given under. -/
structure Gathered where
  pairs : List (String × String) := []
  given : List (String × String) := []

/-- One element of a value: `null` is skipped. -/
def pushItem (key name : String) (pairs : List (String × String)) (item : Value) :
    Except Refusal (List (String × String)) :=
  if isNull item then .ok pairs
  else
    match scalarToString item with
    | some text => .ok (pairs ++ [(name, text)])
    | none => .error (invalid key s!"`{key}` must be a string, number, boolean or an array of them")

/-- The elements of an array; any other value is its own only element. -/
def elements : Value → List Value
  | .array items => items
  | other => [other]

/-- The value of a key: a flag form takes a boolean and sends the literal. -/
def pushValue (key : String) (resolved : Resolved) (pairs : List (String × String)) (value : Value) :
    Except Refusal (List (String × String)) :=
  let name := resolved.spec.name
  if resolved.asFlag then
    match resolved.spec.flag with
    | none => .error (.panicked "as_flag implies a flag value")
    | some flag =>
      match value with
      | .bool true => .ok (pairs ++ [(name, flag)])
      | .bool false | .null => .ok pairs
      | _ => .error (invalid key s!"`{key}` must be a boolean")
  else (elements value).foldlM (pushItem key name) pairs

section Source

variable (lower : Lowercase) (spec : EndpointSpec)

def unknownKey (key : String) : Refusal :=
  let hint := match spec.suggest lower key with
    | some name => s!"did you mean `{name}`? "
    | none => ""
  let endpoint := ".".intercalate spec.path
  let keys := acceptedKeys spec
  invalid key s!"`{endpoint}` does not accept `{key}`; {hint}accepted keys: {keys}"

/-- One key of the object. -/
def pushKey (pathKeyUsed : Option String) (so : Gathered) (entry : String × Value) :
    Except Refusal Gathered :=
  let (key, value) := entry
  match if spec.isPathParam key then pathKeyUsed else none with
  | some used => .error (invalid key s!"`{key}` and `{used}` both name the path param; give one")
  | none =>
    match spec.resolve key with
    | none => .error (unknownKey lower spec key)
    | some resolved =>
      let name := resolved.spec.name
      match so.given.find? fun earlier => earlier.1 = name with
      | some (_, earlier) => .error (invalid key s!"`{key}` is `{name}`, already given as `{earlier}`")
      | none =>
        (pushValue key resolved so.pairs value).map fun pairs => { pairs, given := so.given ++ [(name, key)] }

def queryPairs (pathKeyUsed : Option String) (params : IndexMap String Value) :
    Except Refusal (List (String × String)) :=
  (params.entries.foldlM (pushKey lower spec pathKeyUsed) {}).map Gathered.pairs

end Source

/-- The object form of a call: the path parameter becomes the last segment, every other key goes through the
table. -/
def getWithParams (lower : Lowercase) (path : List String) (params : IndexMap String Value) :
    Except Refusal GetJson :=
  match EndpointSpec.forPath path with
  | none =>
    let joined := "/".intercalate path
    .error (.panicked s!"{joined} has no entry in core::rest::params")
  | some spec =>
    match spec.pathParam with
    | none => (queryPairs lower spec none params).map fun query => { segments := path, query }
    | some key =>
      let given := params.keys.find? spec.isPathParam
      let rest := match given with
        | some used => params.swapRemove used
        | none => params
      match (given.bind params.get?).bind scalarToString with
      | none => .error (invalid key s!"`{key}` is required and must be a string")
      | some value =>
        (queryPairs lower spec given rest).map fun query => { segments := path ++ [value], query }

/-! ### What an object asks for -/

/-- The values a key's value stands for; nothing where the endpoint cannot take it. -/
def texts (r : Resolved) (value : Value) : Option (List String) :=
  if r.asFlag then
    match value with
    | .bool true => some r.spec.flag.toList
    | .bool false | .null => some []
    | _ => none
  else ((elements value).filter fun item => !isNull item).mapM scalarToString

/-- The objects an endpoint takes. -/
structure EndpointSpec.Takes (e : EndpointSpec) (params : IndexMap String Value) : Prop where
  path : ∀ name, e.pathParam = some name → ∃ key value text, params.get? key = some value ∧
    e.isPathParam key = true ∧ scalarToString value = some text
  single : ∀ key ∈ params, ∀ other ∈ params, e.isPathParam key = true → e.isPathParam other = true →
    key = other
  query : ∀ key value, params.get? key = some value → e.isPathParam key = false →
    ∃ r, e.resolve key = some r ∧ (texts r value).isSome
  apart : ∀ key ∈ params, ∀ other ∈ params, ∀ r s, e.resolve key = some r → e.resolve other = some s →
    r.spec = s.spec → key = other

/-- A key wants its wire name for itself and hands in the pairs of its value. -/
def plan (e : EndpointSpec) : Slots.Plan (String × Value) String String (String × String) where
  slot entry := (e.resolve entry.1).map fun r => r.spec.name
  note entry := entry.1
  items entry := (e.resolve entry.1).bind fun r =>
    (texts r entry.2).map fun values => values.map fun text => (r.spec.name, text)

/-- The key a wire name was given under. -/
def Gathered.key (so : Gathered) (name : String) : Option String :=
  (so.given.find? fun earlier => earlier.1 = name).map Prod.snd

/-! ### One key -/

theorem pushItems_ok {key name : String} {items : List Value} {pairs out : List (String × String)} :
    items.foldlM (pushItem key name) pairs = .ok out ↔
      ∃ values, (items.filter fun item => !isNull item).mapM scalarToString = some values ∧
        out = pairs ++ values.map fun text => (name, text) := by
  induction items generalizing pairs with
  | nil =>
    rw [List.foldlM_nil]
    constructor
    · rintro ⟨⟩
      exact ⟨[], rfl, by simp⟩
    · rintro ⟨values, none_, rfl⟩
      cases none_
      simp [pure, Except.pure]
  | cons item rest ih =>
    rw [List.foldlM_cons, pushItem]
    by_cases skipped : isNull item = true
    · rw [if_pos skipped, List.filter_cons_of_neg (by simp [skipped])]
      exact ih
    · rw [if_neg skipped, List.filter_cons_of_pos (by simpa using skipped), List.mapM_cons]
      cases scalarToString item with
      | none =>
        constructor
        · rintro ⟨⟩
        · rintro ⟨values, ⟨⟩, -⟩
      | some text =>
        show List.foldlM (pushItem key name) (pairs ++ [(name, text)]) rest = .ok out ↔ _
        rw [ih]
        constructor
        · rintro ⟨values, all, rfl⟩
          exact ⟨text :: values, by rw [all]; rfl, by simp⟩
        · rintro ⟨values, all, rfl⟩
          cases tail : (rest.filter fun item => !isNull item).mapM scalarToString with
          | none =>
            rw [tail] at all
            cases all
          | some more =>
            rw [tail] at all
            cases all
            exact ⟨more, rfl, by simp⟩

theorem pushItems_error {key name : String} {items : List Value} {pairs : List (String × String)}
    {refusal : Refusal} (refused : items.foldlM (pushItem key name) pairs = .error refusal) :
    ∃ reason, refusal = invalid key reason := by
  obtain ⟨item, -, so, stopped⟩ := exists_of_foldlM_error refused
  rw [pushItem] at stopped
  by_cases skipped : isNull item = true
  · rw [if_pos skipped] at stopped
    cases stopped
  · rw [if_neg skipped] at stopped
    split at stopped <;> cases stopped
    exact ⟨_, rfl⟩

section Key

variable {lower : Lowercase} {e : EndpointSpec} {used : Option String} {so : Gathered} {key : String}
  {value : Value} {r : Resolved}

/-- A flag form: the literal for `true`, nothing for `false` and `null`. -/
theorem pushFlag_cases {flag : String} (asFlag : r.asFlag = true) (literal : r.spec.flag = some flag)
    (pairs : List (String × String)) :
    (∃ values, texts r value = some values ∧
        pushValue key r pairs value = .ok (pairs ++ values.map fun text => (r.spec.name, text))) ∨
      texts r value = none ∧ ∃ reason, pushValue key r pairs value = .error (invalid key reason) := by
  unfold texts pushValue
  rw [if_pos asFlag, if_pos asFlag, literal]
  cases value with
  | bool on =>
    refine .inl ?_
    by_cases set_ : on = true
    · subst set_
      exact ⟨[flag], rfl, rfl⟩
    · rw [Bool.not_eq_true] at set_
      subst set_
      exact ⟨[], rfl, by simp⟩
  | null => exact .inl ⟨[], rfl, by simp⟩
  | _ => exact .inr ⟨rfl, _, rfl⟩

/-- What a value puts on the wire, or the refusal it gets. -/
theorem pushValue_cases (sends : r.asFlag = true → r.spec.flag.isSome) (pairs : List (String × String)) :
    (∃ values, texts r value = some values ∧
        pushValue key r pairs value = .ok (pairs ++ values.map fun text => (r.spec.name, text))) ∨
      texts r value = none ∧ ∃ reason, pushValue key r pairs value = .error (invalid key reason) := by
  by_cases asFlag : r.asFlag = true
  · obtain ⟨flag, literal⟩ := Option.isSome_iff_exists.mp (sends asFlag)
    exact pushFlag_cases asFlag literal pairs
  · cases pushed : pushValue key r pairs value with
    | ok out =>
      rw [pushValue, if_neg asFlag] at pushed
      obtain ⟨values, told, rfl⟩ := pushItems_ok.mp pushed
      refine .inl ⟨values, ?_, rfl⟩
      unfold texts
      rwa [if_neg asFlag]
    | error refusal =>
      have stopped := pushed
      rw [pushValue, if_neg asFlag] at stopped
      obtain ⟨reason, rfl⟩ := pushItems_error stopped
      refine .inr ⟨?_, reason, rfl⟩
      unfold texts
      rw [if_neg asFlag, Option.eq_none_iff_forall_ne_some]
      intro values told
      rw [pushItems_ok.mpr ⟨values, told, rfl⟩] at stopped
      cases stopped

variable (formed : e.WellFormed)

include formed

/-- The boolean form of a parameter has a literal to send. -/
theorem flag_of_asFlag (found : e.resolve key = some r) (asFlag : r.asFlag = true) : r.spec.flag.isSome := by
  obtain ⟨-, -, form⟩ := formed.resolve_eq_some.mp found
  rw [asFlag] at form
  exact (Bool.and_eq_true_iff.mp form.symm).2

/-- What a key does, told by the parameter it spells. -/
theorem pushKey_eq (found : e.resolve key = some r) : pushKey lower e used so (key, value) =
    match so.given.find? fun earlier => earlier.1 = r.spec.name with
    | some (_, earlier) =>
      let name := r.spec.name
      .error (invalid key s!"`{key}` is `{name}`, already given as `{earlier}`")
    | none => (pushValue key r so.pairs value).map fun pairs =>
      { pairs, given := so.given ++ [(r.spec.name, key)] } := by
  have query : e.isPathParam key = false :=
    formed.query key (formed.resolve_isSome.mp (by rw [found]; rfl))
  simp only [pushKey, query, found]
  rfl

/-- **One key.** It goes through when it is known, its wire name is free and its value is one the parameter
takes; otherwise the refusal names it. -/
theorem pushKey_cases (lower : Lowercase) (used : Option String) (so : Gathered) (key : String)
    (value : Value) :
    (∃ r values, e.resolve key = some r ∧ so.key r.spec.name = none ∧ texts r value = some values ∧
        pushKey lower e used so (key, value) = .ok ⟨so.pairs ++ values.map (fun text => (r.spec.name, text)),
          so.given ++ [(r.spec.name, key)]⟩) ∨
      (∀ r, e.resolve key = some r → so.key r.spec.name = none → texts r value = none) ∧
        ∃ reason, pushKey lower e used so (key, value) = .error (invalid key reason) := by
  cases found : e.resolve key with
  | none =>
    refine .inr ⟨by rintro _ ⟨⟩, ?_⟩
    simp only [pushKey, found]
    split
    · exact ⟨_, rfl⟩
    · exact ⟨_, rfl⟩
  | some r =>
    have sends := flag_of_asFlag formed found
    rw [pushKey_eq formed found]
    cases first : so.given.find? fun earlier => earlier.1 = r.spec.name with
    | some earlier =>
      refine .inr ⟨fun other same still => ?_, _, rfl⟩
      rw [← Option.some.inj same, Gathered.key, first] at still
      cases still
    | none =>
      rcases pushValue_cases sends so.pairs with ⟨values, told, pushed⟩ | ⟨nothing, reason, pushed⟩
      · refine .inl ⟨r, values, rfl, by rw [Gathered.key, first]; rfl, told, ?_⟩
        rw [pushed]
        rfl
      · refine .inr ⟨fun _ same _ => Option.some.inj same ▸ nothing, reason, ?_⟩
        rw [pushed]
        rfl

end Key

/-! ### All keys -/

theorem plan_slot {e : EndpointSpec} {key : String} {value : Value} {name : String} :
    (plan e).slot (key, value) = some name ↔ ∃ r, e.resolve key = some r ∧ r.spec.name = name :=
  Option.map_eq_some_iff

theorem plan_items {e : EndpointSpec} {key : String} {value : Value} {pairs : List (String × String)} :
    (plan e).items (key, value) = some pairs ↔ ∃ r values, e.resolve key = some r ∧
      texts r value = some values ∧ values.map (fun text => (r.spec.name, text)) = pairs := by
  simp only [plan, Option.bind_eq_some_iff, Option.map_eq_some_iff]
  constructor
  · rintro ⟨r, found, values, told, same⟩
    exact ⟨r, values, found, told, same⟩
  · rintro ⟨r, values, found, told, same⟩
    exact ⟨r, found, values, told, same⟩

/-- A pair bears the wire name its key wants. -/
theorem plan_marked {e : EndpointSpec} (entry : String × Value) (pairs : List (String × String))
    (gives : (plan e).items entry = some pairs) (pair : String × String) (handed : pair ∈ pairs) :
    (plan e).slot entry = some pair.1 := by
  obtain ⟨r, values, found, -, rfl⟩ := plan_items.mp gives
  obtain ⟨text, -, rfl⟩ := List.mem_map.mp handed
  exact plan_slot.mpr ⟨r, found, rfl⟩

section Keys

variable {e : EndpointSpec} (formed : e.WellFormed) {lower : Lowercase} {used : Option String}
  {params : IndexMap String Value}

include formed

theorem queryLoop : Loop (plan e) (pushKey lower e used) Gathered.key Gathered.pairs where
  takes := by
    rintro so ⟨key, value⟩ next went
    rcases pushKey_cases formed lower used so key value with
      ⟨r, values, found, free, told, goes⟩ | ⟨-, reason, stops⟩
    · rw [goes] at went
      cases went
      refine ⟨r.spec.name, _, plan_slot.mpr ⟨r, found, rfl⟩, free,
        plan_items.mpr ⟨r, values, found, told, rfl⟩, fun other => ?_, rfl⟩
      rw [Gathered.key, List.find?_append]
      by_cases same : other = r.spec.name
      · subst same
        have none_ : so.given.find? (fun earlier => earlier.1 = r.spec.name) = none :=
          Option.map_eq_none_iff.mp free
        rw [none_, if_pos rfl]
        simp [plan]
      · have apart : ¬ r.spec.name = other := fun here => same here.symm
        simp [same, apart, Gathered.key]
    · rw [stops] at went
      cases went
  goes := by
    rintro so ⟨key, value⟩ slot pairs wants free gives
    obtain ⟨r, values, found, told, -⟩ := plan_items.mp gives
    obtain ⟨_, same, rfl⟩ := plan_slot.mp wants
    cases found.symm.trans same
    rcases pushKey_cases formed lower used so key value with ⟨_, _, -, -, -, goes⟩ | ⟨nothing, -⟩
    · exact ⟨_, goes⟩
    · rw [nothing r found free] at told
      cases told

/-- The objects the loop gets through, and the pairs of one. -/
theorem queryPairs_ok {query : List (String × String)} :
    queryPairs lower e used params = .ok query ↔
      (plan e).Fits params.entries ∧ query = (plan e).all params.entries := by
  have loop : Slots.Loop (plan e) (pushKey lower e used) Gathered.key Gathered.pairs := queryLoop formed
  rw [queryPairs]
  constructor
  · intro went
    cases through : params.entries.foldlM (pushKey lower e used) {} with
    | error refusal =>
      rw [through] at went
      cases went
    | ok last =>
      rw [through] at went
      cases went
      exact ⟨(loop.ends through).fits, by simpa using (loop.ends through).items⟩
  · rintro ⟨fits, rfl⟩
    obtain ⟨last, through⟩ : ∃ last, params.entries.foldlM (pushKey lower e used) {} = .ok last :=
      (loop.exists_ok_iff fun _ => rfl).mpr fits
    rw [through]
    show Except.ok last.pairs = _
    rw [(loop.ends through).items]
    rfl

theorem queryPairs_error {refusal : Refusal} (refused : queryPairs lower e used params = .error refusal) :
    ∃ key ∈ params, ∃ reason, refusal = invalid key reason := by
  rw [queryPairs] at refused
  cases through : params.entries.foldlM (pushKey lower e used) {} with
  | ok last =>
    rw [through] at refused
    cases refused
  | error other =>
    rw [through] at refused
    cases refused
    obtain ⟨⟨key, value⟩, member, so, stopped⟩ := exists_of_foldlM_error through
    refine ⟨key, IndexMap.mem_of_get? (IndexMap.get?_eq_some.mpr member), ?_⟩
    rcases pushKey_cases formed lower used so key value with ⟨_, _, -, -, -, goes⟩ | ⟨-, reason, stops⟩
    · rw [goes] at stopped
      cases stopped
    · rw [stops] at stopped
      cases stopped
      exact ⟨reason, rfl⟩

/-- What the loop asks of an object, without any order. -/
theorem fits_iff : (plan e).Fits params.entries ↔
    (∀ key value, params.get? key = some value → ∃ r, e.resolve key = some r ∧ (texts r value).isSome) ∧
      ∀ key ∈ params, ∀ other ∈ params, ∀ r s, e.resolve key = some r → e.resolve other = some s →
        r.spec = s.spec → key = other := by
  constructor
  · intro fits
    refine ⟨fun key value found => ?_, fun key one other two r s first second same => ?_⟩
    · obtain ⟨wants, gives⟩ := fits.each _ (IndexMap.get?_eq_some.mp found)
      obtain ⟨pairs, handed⟩ := Option.isSome_iff_exists.mp gives
      obtain ⟨r, values, known, told, -⟩ := plan_items.mp handed
      exact ⟨r, known, by rw [told]; rfl⟩
    · obtain ⟨value, here⟩ := IndexMap.mem_iff_get?.mp one
      obtain ⟨another, there⟩ := IndexMap.mem_iff_get?.mp two
      have entry := fits.eq_of_slot (IndexMap.get?_eq_some.mp here) (IndexMap.get?_eq_some.mp there)
        ((plan_slot.mpr ⟨r, first, rfl⟩).trans (plan_slot.mpr ⟨s, second, by rw [same]⟩).symm)
      exact congrArg Prod.fst entry
  · rintro ⟨known, apart⟩
    refine Slots.Plan.Fits.of_eq_of_slot ?_ (List.Nodup.of_map _ params.nodup) ?_
    · rintro ⟨key, value⟩ member
      obtain ⟨r, found, told⟩ := known key value (IndexMap.get?_eq_some.mpr member)
      obtain ⟨values, told⟩ := Option.isSome_iff_exists.mp told
      rw [plan_slot.mpr ⟨r, found, rfl⟩, plan_items.mpr ⟨r, values, found, told, rfl⟩]
      exact ⟨rfl, rfl⟩
    · rintro ⟨key, value⟩ one ⟨other, another⟩ two same
      have here := IndexMap.get?_eq_some.mpr one
      have there := IndexMap.get?_eq_some.mpr two
      obtain ⟨r, first, -⟩ := known key value here
      obtain ⟨s, second, -⟩ := known other another there
      rw [plan_slot.mpr ⟨r, first, rfl⟩, plan_slot.mpr ⟨s, second, rfl⟩, Option.some.injEq] at same
      have spec := formed.eq_of_name (formed.resolve_eq_some.mp first).1 (formed.resolve_eq_some.mp second).1 same
      have sameKey := apart key (IndexMap.mem_of_get? here) other (IndexMap.mem_of_get? there) r s first second spec
      subst sameKey
      rw [Option.some.inj (here.symm.trans there)]

end Keys

/-! ### The whole object -/

section Object

variable {e : EndpointSpec} (row : e ∈ ENDPOINTS) {lower : Lowercase} {params : IndexMap String Value}

/-- An endpoint without a path parameter: every key is one of the query. -/
theorem isPathParam_of_bare (formed : e.WellFormed) (bare : e.pathParam = none) (key : String) :
    e.isPathParam key = false := by
  rw [EndpointSpec.isPathParam, bare, formed.bare bare]
  rfl

/-- The key an object gives the path parameter under, or none. -/
theorem pathKey_cases (e : EndpointSpec) (params : IndexMap String Value) :
    (∃ used value, params.keys.find? e.isPathParam = some used ∧ e.isPathParam used = true ∧
        params.get? used = some value) ∨
      params.keys.find? e.isPathParam = none ∧ ∀ key ∈ params, e.isPathParam key = false := by
  cases first : params.keys.find? e.isPathParam with
  | some used =>
    obtain ⟨value, found⟩ := IndexMap.mem_iff_get?.mp (List.mem_of_find?_eq_some first)
    exact .inl ⟨used, value, rfl, List.find?_some first, found⟩
  | none =>
    refine .inr ⟨rfl, fun key member => ?_⟩
    simpa using List.find?_eq_none.mp first key member

include row

theorem getWithParams_bare (bare : e.pathParam = none) : getWithParams lower e.path params =
    (queryPairs lower e none params).map fun query => { segments := e.path, query } := by
  rw [getWithParams, EndpointSpec.forPath_eq_some row |>.mpr rfl]
  simp only [bare]

/-- **The object form, case by case.** -/
theorem getWithParams_cases (lower : Lowercase) (params : IndexMap String Value) {name : String} (named : e.pathParam = some name) :
    (∃ used value text, e.isPathParam used = true ∧ params.get? used = some value ∧
        scalarToString value = some text ∧ getWithParams lower e.path params =
          (queryPairs lower e (some used) (params.swapRemove used)).map fun query =>
            { segments := e.path ++ [text], query }) ∨
      (∃ reason, getWithParams lower e.path params = .error (invalid name reason)) ∧
        ¬ e.Takes params := by
  rw [getWithParams, EndpointSpec.forPath_eq_some row |>.mpr rfl]
  simp only [named]
  rcases pathKey_cases e params with ⟨used, value, first, isPath, found⟩ | ⟨first, clear⟩
  · simp only [first, found, Option.bind_some]
    cases scalar : scalarToString value with
    | some text => exact .inl ⟨used, value, text, isPath, found, scalar, rfl⟩
    | none =>
      refine .inr ⟨⟨_, rfl⟩, fun takes => ?_⟩
      obtain ⟨key, other, text, here, again, written⟩ := takes.path name named
      have same := takes.single key (IndexMap.mem_of_get? here) used (IndexMap.mem_of_get? found) again isPath
      subst same
      rw [Option.some.inj (found.symm.trans here), written] at scalar
      cases scalar
  · simp only [first, Option.bind_none]
    refine .inr ⟨⟨_, rfl⟩, fun takes => ?_⟩
    obtain ⟨key, value, text, here, isPath, -⟩ := takes.path name named
    rw [clear key (IndexMap.mem_of_get? here)] at isPath
    cases isPath

/-- With the path parameter out, what is left to ask of an object is what the loop asks. -/
theorem takes_iff_fits {used : String} {value : Value} {text : String} (isPath : e.isPathParam used = true)
    (found : params.get? used = some value)
    (scalar : scalarToString value = some text) :
    e.Takes params ↔ (plan e).Fits (params.swapRemove used).entries := by
  have formed := wellFormed e row
  have left (key : String) (other : Value) :
      (params.swapRemove used).get? key = some other ↔ key ≠ used ∧ params.get? key = some other := by
    rw [IndexMap.get?_swapRemove found]
    by_cases same : key = used
    · simp [same]
    · simp [same]
  have stays {key : String} (member : key ∈ params) (other : key ≠ used) : key ∈ params.swapRemove used := by
    obtain ⟨value, here⟩ := IndexMap.mem_iff_get?.mp member
    exact IndexMap.mem_of_get? ((left key value).mpr ⟨other, here⟩)
  have was {key : String} (member : key ∈ params.swapRemove used) : key ∈ params := by
    obtain ⟨value, here⟩ := IndexMap.mem_iff_get?.mp member
    exact IndexMap.mem_of_get? ((left key value).mp here).2
  have query {key : String} {r : Resolved} (known : e.resolve key = some r) : key ≠ used := by
    rintro rfl
    rw [formed.resolve_pathParam isPath] at known
    cases known
  rw [fits_iff formed]
  constructor
  · intro takes
    refine ⟨fun key other here => ?_, fun key one other two => takes.apart key (was one) other (was two)⟩
    obtain ⟨different, here⟩ := (left key other).mp here
    refine takes.query key other here ?_
    rw [Bool.eq_false_iff]
    intro again
    exact different (takes.single key (IndexMap.mem_of_get? here) used (IndexMap.mem_of_get? found) again isPath)
  · rintro ⟨known, apart⟩
    have alone {key : String} (member : key ∈ params) (again : e.isPathParam key = true) : key = used := by
      by_contra different
      obtain ⟨other, here⟩ := IndexMap.mem_iff_get?.mp (stays member different)
      obtain ⟨r, resolved, -⟩ := known key other here
      rw [formed.resolve_pathParam again] at resolved
      cases resolved
    refine ⟨fun _ _ => ⟨used, value, text, found, isPath, scalar⟩,
      fun key one other two first second => (alone one first).trans (alone two second).symm,
      fun key other here notPath => known key other ((left key other).mpr ⟨?_, here⟩),
      fun key one other two r s first second => apart key (stays one (query first)) other
        (stays two (query second)) r s first second⟩
    rintro rfl
    rw [isPath] at notPath
    cases notPath

theorem takes_iff_fits_bare (bare : e.pathParam = none) : e.Takes params ↔ (plan e).Fits params.entries := by
  have formed := wellFormed e row
  have query := isPathParam_of_bare formed bare
  rw [fits_iff formed]
  constructor
  · exact fun takes => ⟨fun key value here => takes.query key value here (query key), takes.apart⟩
  · rintro ⟨known, apart⟩
    refine ⟨fun name named => ?_, fun key _ other _ isPath => ?_, fun key value here _ => known key value here,
      apart⟩
    · rw [bare] at named
      cases named
    · rw [query key] at isPath
      cases isPath

/-- What a request for an accepted object is made of. -/
structure Sent (e : EndpointSpec) (params : IndexMap String Value) (request : GetJson) : Prop where
  takes : e.Takes params
  bare : e.pathParam = none → request.segments = e.path
  path : ∀ name, e.pathParam = some name → ∃ key value text, params.get? key = some value ∧
    e.isPathParam key = true ∧ scalarToString value = some text ∧ request.segments = e.path ++ [text]
  query : ∃ rest : IndexMap String Value, (plan e).Fits rest.entries ∧
    request.query = (plan e).all rest.entries ∧ ∀ key value, e.isPathParam key = false →
      (rest.get? key = some value ↔ params.get? key = some value)

omit row in
/-- Under a wire name stand the values of the key that spells it. -/
theorem Sent.values (formed : e.WellFormed) {request : GetJson} (sent : Sent e params request) {key : String}
    {value : Value} {r : Resolved} (found : params.get? key = some value) (known : e.resolve key = some r) :
    texts r value = some ((request.query.filter fun pair => pair.1 = r.spec.name).map Prod.snd) := by
  obtain ⟨-, -, -, rest, fits, query, same⟩ := sent
  have notPath : e.isPathParam key = false :=
    formed.query key (formed.resolve_isSome.mp (by rw [known]; rfl))
  have there := IndexMap.get?_eq_some.mp ((same key value notPath).mpr found)
  have wants : (plan e).slot (key, value) = some r.spec.name := plan_slot.mpr ⟨r, known, rfl⟩
  obtain ⟨pairs, gives⟩ := Option.isSome_iff_exists.mp (fits.each _ there).2
  obtain ⟨_, values, again, told, rfl⟩ := plan_items.mp gives
  cases known.symm.trans again
  rw [query, fits.items_of_slot plan_marked there wants, gives, told]
  simp [Function.comp_def]

omit row in
/-- A pair is some key's. -/
theorem Sent.named (formed : e.WellFormed) {request : GetJson} (sent : Sent e params request)
    {pair : String × String} (member : pair ∈ request.query) :
    ∃ key ∈ params, ∃ r, e.resolve key = some r ∧ r.spec.name = pair.1 := by
  obtain ⟨-, -, -, rest, fits, query, same⟩ := sent
  rw [query, Slots.Plan.all, List.mem_flatMap] at member
  obtain ⟨⟨key, value⟩, there, handed⟩ := member
  obtain ⟨pairs, gives⟩ := Option.isSome_iff_exists.mp (fits.each _ there).2
  rw [gives, Option.getD_some] at handed
  obtain ⟨r, known, name⟩ := plan_slot.mp (plan_marked _ _ gives pair handed)
  have notPath : e.isPathParam key = false :=
    formed.query key (formed.resolve_isSome.mp (by rw [known]; rfl))
  have found := (same key value notPath).mp (IndexMap.get?_eq_some.mpr there)
  exact ⟨key, IndexMap.mem_of_get? found, r, known, name⟩

theorem sent_of_ok {request : GetJson} (went : getWithParams lower e.path params = .ok request) :
    Sent e params request := by
  have formed := wellFormed e row
  cases named : e.pathParam with
  | none =>
    rw [getWithParams_bare row named] at went
    cases through : queryPairs lower e none params with
    | error refusal =>
      rw [through] at went
      cases went
    | ok query =>
      rw [through] at went
      cases went
      obtain ⟨fits, rfl⟩ := (queryPairs_ok formed).mp through
      refine ⟨(takes_iff_fits_bare row named).mpr fits, fun _ => rfl, fun name other => ?_,
        params, fits, rfl, fun _ _ _ => Iff.rfl⟩
      rw [named] at other
      cases other
  | some name =>
    rcases getWithParams_cases row lower params named with
      ⟨used, value, text, isPath, found, scalar, same⟩ | ⟨⟨reason, same⟩, -⟩
    · rw [same] at went
      cases through : queryPairs lower e (some used) (params.swapRemove used) with
      | error refusal =>
        rw [through] at went
        cases went
      | ok query =>
        rw [through] at went
        cases went
        obtain ⟨fits, rfl⟩ := (queryPairs_ok formed).mp through
        refine ⟨(takes_iff_fits row isPath found scalar).mpr fits, fun other => ?_,
          fun _ _ => ⟨used, value, text, found, isPath, scalar, rfl⟩, _, fits, rfl, fun key other notPath => ?_⟩
        · rw [named] at other
          cases other
        · have different : key ≠ used := by
            rintro rfl
            rw [isPath] at notPath
            cases notPath
          rw [IndexMap.get?_swapRemove found, if_neg different]
    · rw [same] at went
      cases went

theorem ok_of_takes (lower : Lowercase) (takes : e.Takes params) :
    ∃ request, getWithParams lower e.path params = .ok request := by
  have formed := wellFormed e row
  cases named : e.pathParam with
  | none =>
    rw [getWithParams_bare row named,
      (queryPairs_ok formed).mpr ⟨(takes_iff_fits_bare row named).mp takes, rfl⟩]
    exact ⟨_, rfl⟩
  | some name =>
    rcases getWithParams_cases row lower params named with
      ⟨used, value, text, isPath, found, scalar, same⟩ | ⟨-, refused⟩
    · rw [same, (queryPairs_ok formed).mpr ⟨(takes_iff_fits row isPath found scalar).mp takes, rfl⟩]
      exact ⟨_, rfl⟩
    · exact (refused takes).elim

theorem refusal_named {refusal : Refusal} (went : getWithParams lower e.path params = .error refusal) :
    ∃ name reason, refusal = invalid name reason ∧ (name ∈ params ∨ e.pathParam = some name) := by
  have formed := wellFormed e row
  cases named : e.pathParam with
  | none =>
    rw [getWithParams_bare row named] at went
    cases through : queryPairs lower e none params with
    | ok query =>
      rw [through] at went
      cases went
    | error other =>
      rw [through] at went
      cases went
      obtain ⟨key, member, reason, rfl⟩ := queryPairs_error formed through
      exact ⟨key, reason, rfl, .inl member⟩
  | some name =>
    rcases getWithParams_cases row lower params named with
      ⟨used, value, text, isPath, found, -, same⟩ | ⟨⟨reason, same⟩, -⟩
    · rw [same] at went
      cases through : queryPairs lower e (some used) (params.swapRemove used) with
      | ok query =>
        rw [through] at went
        cases went
      | error other =>
        rw [through] at went
        cases went
        obtain ⟨key, member, reason, rfl⟩ := queryPairs_error formed through
        refine ⟨key, reason, rfl, .inl ?_⟩
        obtain ⟨other, here⟩ := IndexMap.mem_iff_get?.mp member
        rw [IndexMap.get?_swapRemove found] at here
        by_cases own : key = used
        · rw [if_pos own] at here
          cases here
        · rw [if_neg own] at here
          exact IndexMap.mem_of_get? here
    · rw [same] at went
      cases went
      exact ⟨name, reason, rfl, .inr rfl⟩

end Object

/-- **What is accepted.** An object is sent when it gives the path parameter once, as a scalar, and every
other key is known, spells a parameter no other key spells and has a value the parameter takes; any other
object is refused over one of its keys or the missing path parameter. -/
theorem object_accepted : ∀ e ∈ ENDPOINTS, ∀ (lower : Lowercase) (params : IndexMap String Value),
    ((∃ request, getWithParams lower e.path params = .ok request) ↔ e.Takes params) ∧
      ∀ refusal, getWithParams lower e.path params = .error refusal → ∃ name reason,
        refusal = .rejected (.invalidParameter name reason) ∧ (name ∈ params ∨ e.pathParam = some name) := by
  intro e row lower params
  refine ⟨⟨?_, ok_of_takes row lower⟩, fun refusal refused => refusal_named row refused⟩
  rintro ⟨request, went⟩
  exact (sent_of_ok row went).takes

/-- A quote by symbol and odd-lot flag is accepted, so the endpoint takes the object; with the flag under two
spellings it is refused. -/
theorem object_accepted_quote :
    QUOTE.Takes ⟨[("oddLot", .bool true), ("symbol", .string "2330")], by decide⟩ ∧
      ¬ QUOTE.Takes ⟨[("oddLot", .bool true), ("type", .string "oddlot"), ("symbol", .string "2330")],
        by decide⟩ := by
  refine ⟨(object_accepted QUOTE (by decide) asciiLowercase _).1.mp ⟨_, rfl⟩, fun takes => ?_⟩
  obtain ⟨request, went⟩ := (object_accepted QUOTE (by decide) asciiLowercase _).1.mpr takes
  cases went

/-- **What is sent.** The other side of an accepted call reads, behind the base, the endpoint's path with the
path parameter's value and, under each parameter's wire name, the values of the one key that spells it, in
their order; every pair it reads is some key's. -/
theorem object_sent {encoders : Encoders} (documented : encoders.Documented) : ∀ e ∈ ENDPOINTS,
    ∀ (lower : Lowercase) (params : IndexMap String Value) (request : GetJson) (baseUrl : String),
      getWithParams lower e.path params = .ok request →
      (∃ appended, (endpointUrl encoders baseUrl request.segments request.query).toList =
          baseUrl.toList ++ appended ∧ readAppended appended = some (request.segments, request.query)) ∧
      (e.pathParam = none → request.segments = e.path) ∧
      (∀ name, e.pathParam = some name → ∃ key value text, params.get? key = some value ∧
        e.isPathParam key = true ∧ scalarToString value = some text ∧ request.segments = e.path ++ [text]) ∧
      (∀ key value r, params.get? key = some value → e.resolve key = some r →
        texts r value = some ((request.query.filter fun pair => pair.1 = r.spec.name).map Prod.snd)) ∧
      ∀ pair ∈ request.query, ∃ key ∈ params, ∃ r, e.resolve key = some r ∧ r.spec.name = pair.1 := by
  intro e row lower params request baseUrl went
  have formed := wellFormed e row
  have sent := sent_of_ok row went
  refine ⟨⟨_, toList_endpointUrl documented _ _ _, readAppended_text _ _⟩, sent.bare, sent.path,
    fun key value r found known => sent.values formed found known, fun pair member => sent.named formed member⟩

/-- The odd-lot quote reads `type=oddlot` behind its symbol. -/
theorem object_sent_quote : ∃ appended,
    (endpointUrl byteEncoders "https://h/v1.0" ["stock", "intraday", "quote", "2330"]
      [("type", "oddlot")]).toList = "https://h/v1.0".toList ++ appended ∧
    readAppended appended = some (["stock", "intraday", "quote", "2330"], [("type", "oddlot")]) :=
  (object_sent byteEncoders_documented QUOTE (by decide) asciiLowercase
    ⟨[("oddLot", .bool true), ("symbol", .string "2330")], by decide⟩
    ⟨["stock", "intraday", "quote", "2330"], [("type", "oddlot")]⟩ "https://h/v1.0" rfl).1

/-! ### The quote's flag beside an object -/

section Quote

variable (lower : Lowercase)

/-- `quote` with an object: a positional odd-lot flag goes into the object unless that sets `type` under any
spelling; a `null` does not set it. -/
def quoteObject (oddLot : Option Bool) (params : IndexMap String Value) : Except Refusal GetJson :=
  let path := ["stock", "intraday", "quote"]
  match EndpointSpec.forPath path with
  | none => .error (.panicked "quote is in the table")
  | some spec =>
    let setsType := params.entries.any fun (key, value) =>
      !isNull value && (spec.resolve key).any fun r => r.spec.name = "type"
    if oddLot = some true && !setsType then
      getWithParams lower path (params.insert "oddLot" (.bool true))
    else getWithParams lower path params

/-- Whether an object sets the quote's `type`. -/
def SetsType (params : IndexMap String Value) : Prop :=
  ∃ key value, params.get? key = some value ∧ isNull value = false ∧ (QUOTE.resolve key).isSome

/-- The spellings of the quote's only parameter. -/
theorem quote_resolve_isSome {key : String} :
    (QUOTE.resolve key).isSome ↔ key = "type" ∨ key = "odd_lot" ∨ key = "oddLot" := by
  rw [(wellFormed QUOTE (by decide)).resolve_isSome]
  simp [EndpointSpec.spellings, QUOTE, ParamSpec.spellings, ODD_LOT, param]

theorem quote_spec {key : String} {r : Resolved} (known : QUOTE.resolve key = some r) : r.spec = ODD_LOT := by
  have member := ((wellFormed QUOTE (by decide)).resolve_eq_some.mp known).1
  simpa [QUOTE] using member

theorem quoteObject_eq (params : IndexMap String Value) [Decidable (SetsType params)] :
    quoteObject lower (some true) params = getWithParams lower QUOTE.path
      (if SetsType params then params else params.insert "oddLot" (.bool true)) := by
  have row : EndpointSpec.forPath ["stock", "intraday", "quote"] = some QUOTE :=
    (EndpointSpec.forPath_eq_some (by decide)).mpr rfl
  have same : (params.entries.any fun (key, value) =>
      !isNull value && (QUOTE.resolve key).any fun r => r.spec.name = "type") = true ↔ SetsType params := by
    rw [List.any_eq_true]
    constructor
    · rintro ⟨⟨key, value⟩, member, sets⟩
      obtain ⟨given, spelled⟩ := Bool.and_eq_true_iff.mp sets
      obtain ⟨r, known, -⟩ := Option.any_eq_true _ _ |>.mp spelled
      exact ⟨key, value, IndexMap.get?_eq_some.mpr member, by simpa using given, by rw [known]; rfl⟩
    · rintro ⟨key, value, found, given, known⟩
      obtain ⟨r, known⟩ := Option.isSome_iff_exists.mp known
      refine ⟨(key, value), IndexMap.get?_eq_some.mp found, ?_⟩
      simp [given, known, quote_spec known, ODD_LOT, param]
  unfold quoteObject
  simp only [row]
  by_cases sets : SetsType params
  · rw [if_pos sets, same.mpr sets]
    rfl
  · rw [if_neg sets, Bool.eq_false_iff.mpr (mt same.mp sets)]
    rfl

theorem oddLot_resolve : QUOTE.resolve "oddLot" = some { spec := ODD_LOT, asFlag := true } := by decide

/-- With no `type` set, the flag fits beside the object's keys unless one of them spells `type` all the
same. -/
theorem takes_insert {params : IndexMap String Value} (unset : ¬ SetsType params) :
    QUOTE.Takes (params.insert "oddLot" (.bool true)) ↔
      QUOTE.Takes params ∧ "type" ∉ params ∧ "odd_lot" ∉ params := by
  have notPath : QUOTE.isPathParam "oddLot" = false := by decide
  have there : "oddLot" ∈ params.insert "oddLot" (.bool true) := IndexMap.mem_insert.mpr (by simp)
  have lift {key : String} (member : key ∈ params) : key ∈ params.insert "oddLot" (.bool true) :=
    IndexMap.mem_insert.mpr (by simp [member])
  have got {key : String} (other : key ≠ "oddLot") :
      (params.insert "oddLot" (.bool true)).get? key = params.get? key := by
    rw [IndexMap.get?_insert, if_neg other]
  have isOther {key : String} (isPath : QUOTE.isPathParam key = true) : key ≠ "oddLot" := by
    rintro rfl
    rw [notPath] at isPath
    cases isPath
  constructor
  · intro takes
    have absent (key : String) (r : Resolved) (known : QUOTE.resolve key = some r) (other : key ≠ "oddLot") :
        key ∉ params := fun member => other (takes.apart key (lift member) "oddLot" there r _ known
          oddLot_resolve (quote_spec known))
    refine ⟨⟨fun name named => ?_, fun key one other two => takes.single key (lift one) other (lift two),
      fun key value found query => ?_,
      fun key one other two => takes.apart key (lift one) other (lift two)⟩,
      absent "type" { spec := ODD_LOT, asFlag := false } (by decide) (by decide),
      absent "odd_lot" { spec := ODD_LOT, asFlag := true } (by decide) (by decide)⟩
    · obtain ⟨key, value, text, found, isPath, scalar⟩ := takes.path name named
      rw [got (isOther isPath)] at found
      exact ⟨key, value, text, found, isPath, scalar⟩
    · by_cases flag : key = "oddLot"
      · subst flag
        refine ⟨_, oddLot_resolve, ?_⟩
        have null : isNull value = true := by
          by_contra given
          exact unset ⟨"oddLot", value, found, by simpa using given, by rw [oddLot_resolve]; rfl⟩
        cases value <;> cases null
        rfl
      · exact takes.query key value (by rw [got flag, found]) query
  · rintro ⟨takes, noType, noFlag⟩
    have only {key : String} {r : Resolved} (member : key ∈ params.insert "oddLot" (.bool true))
        (known : QUOTE.resolve key = some r) : key = "oddLot" := by
      rcases quote_resolve_isSome.mp (by rw [known]; rfl) with rfl | rfl | rfl
      · exact (noType (by simpa using IndexMap.mem_insert.mp member)).elim
      · exact (noFlag (by simpa using IndexMap.mem_insert.mp member)).elim
      · rfl
    have was {key : String} (member : key ∈ params.insert "oddLot" (.bool true)) (other : key ≠ "oddLot") :
        key ∈ params := by simpa [other] using IndexMap.mem_insert.mp member
    refine ⟨fun name named => ?_, fun key one other two isPath again => ?_, fun key value found query => ?_,
      fun key one other two r s first second _ => (only one first).trans (only two second).symm⟩
    · obtain ⟨key, value, text, found, isPath, scalar⟩ := takes.path name named
      exact ⟨key, value, text, by rw [got (isOther isPath), found], isPath, scalar⟩
    · exact takes.single key (was one (isOther isPath)) other (was two (isOther again)) isPath again
    · by_cases flag : key = "oddLot"
      · subst flag
        rw [IndexMap.get?_insert_self] at found
        cases found
        exact ⟨_, oddLot_resolve, rfl⟩
      · rw [got flag] at found
        exact takes.query key value found query

/-- The quote's query is all of its one parameter. -/
theorem Sent.quote_values {params : IndexMap String Value} {request : GetJson}
    (sent : Sent QUOTE params request) {key : String} {value : Value} {r : Resolved}
    (found : params.get? key = some value) (known : QUOTE.resolve key = some r) :
    texts r value = some (request.query.map Prod.snd) ∧ ∀ pair ∈ request.query, pair.1 = "type" := by
  have formed := wellFormed QUOTE (by decide)
  have named (pair : String × String) (member : pair ∈ request.query) : pair.1 = "type" := by
    obtain ⟨_, -, s, known, name⟩ := sent.named formed member
    rw [← name, quote_spec known]
    rfl
  have whole : request.query.filter (fun pair => pair.1 = r.spec.name) = request.query := by
    refine List.filter_eq_self.mpr fun pair member => decide_eq_true ?_
    rw [named pair member, quote_spec known]
    rfl
  have told := sent.values formed found known
  rw [whole] at told
  exact ⟨told, named⟩

/-- **The quote's flag.** A set flag goes with every object the quote takes but one that gives `type` or
`odd_lot` as `null`. The object's own `type` wins, and its values under that name are the whole query;
without one the flag's literal is. -/
theorem quote_flag (params : IndexMap String Value) :
    ((∃ request, quoteObject lower (some true) params = .ok request) ↔ QUOTE.Takes params ∧
      params.get? "type" ≠ some .null ∧ params.get? "odd_lot" ≠ some .null) ∧
    ∀ request, quoteObject lower (some true) params = .ok request →
      (∀ key value r, params.get? key = some value → isNull value = false → QUOTE.resolve key = some r →
        texts r value = some (request.query.map Prod.snd) ∧ ∀ pair ∈ request.query, pair.1 = "type") ∧
      (¬ SetsType params → request.query = [("type", "oddlot")]) := by
  classical
  have row : QUOTE ∈ ENDPOINTS := by decide
  have accepted (object : IndexMap String Value) :
      (∃ request, getWithParams lower QUOTE.path object = .ok request) ↔ QUOTE.Takes object :=
    ⟨fun ⟨_, went⟩ => (sent_of_ok row went).takes, ok_of_takes row lower⟩
  rw [quoteObject_eq]
  by_cases sets : SetsType params
  · rw [if_pos sets, accepted]
    obtain ⟨own, value, found, given, spelled⟩ := sets
    obtain ⟨r, known⟩ := Option.isSome_iff_exists.mp spelled
    refine ⟨⟨fun takes => ⟨takes, ?_, ?_⟩, And.left⟩, fun request went => ?_⟩
    · intro null
      have same := takes.apart "type" (IndexMap.mem_of_get? null) own (IndexMap.mem_of_get? found)
        { spec := ODD_LOT, asFlag := false } r (by decide) known (quote_spec known).symm
      rw [← same, null] at found
      cases found
      cases given
    · intro null
      have same := takes.apart "odd_lot" (IndexMap.mem_of_get? null) own (IndexMap.mem_of_get? found)
        { spec := ODD_LOT, asFlag := true } r (by decide) known (quote_spec known).symm
      rw [← same, null] at found
      cases found
      cases given
    · refine ⟨fun key other s here _ resolved => (sent_of_ok row went).quote_values here resolved,
        fun unset => (unset ⟨own, value, found, given, spelled⟩).elim⟩
  · rw [if_neg sets, accepted, takes_insert sets]
    have absent (key : String) (spelled : (QUOTE.resolve key).isSome) :
        key ∉ params ↔ params.get? key ≠ some .null := by
      rw [← IndexMap.get?_eq_none]
      constructor
      · intro none_ null
        rw [none_] at null
        cases null
      · intro given
        cases found : params.get? key with
        | none => rfl
        | some value =>
          have null : isNull value = true := by
            by_contra other
            exact sets ⟨key, value, found, by simpa using other, spelled⟩
          cases value <;> cases null
          exact (given found).elim
    refine ⟨?_, fun request went => ⟨fun key value r found given known =>
      (sets ⟨key, value, found, given, by rw [known]; rfl⟩).elim, fun _ => ?_⟩⟩
    · rw [absent "type" (by decide), absent "odd_lot" (by decide)]
    · obtain ⟨told, named⟩ := (sent_of_ok row went).quote_values (IndexMap.get?_insert_self _ _ _) oddLot_resolve
      have single : request.query.map Prod.snd = ["oddlot"] := (Option.some.inj told).symm
      obtain ⟨⟨name, text⟩, one⟩ : ∃ pair, request.query = [pair] := by
        refine List.length_eq_one_iff.mp ?_
        rw [← List.length_map Prod.snd, single]
        rfl
      have wire : name = "type" := named (name, text) (by rw [one]; exact List.mem_singleton_self _)
      have literal : text = "oddlot" := by simpa [one] using single
      rw [one, wire, literal]

end Quote

/-- `quote({ symbol, type: null }, true)` is refused, though `quote({ symbol, type: null })` is not. -/
theorem quote_flag_null :
    (¬ ∃ request, quoteObject asciiLowercase (some true)
        ⟨[("symbol", .string "2330"), ("type", .null)], by decide⟩ = .ok request) ∧
      ∃ request, quoteObject asciiLowercase none
        ⟨[("symbol", .string "2330"), ("type", .null)], by decide⟩ = .ok request := by
  refine ⟨fun went => ?_, _, rfl⟩
  exact ((quote_flag asciiLowercase _).1.mp went).2.1 rfl

end FugleMarketdata.Rest
