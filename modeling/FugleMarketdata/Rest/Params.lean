/-
**Query parameters.** `core/src/rest/params.rs`: the table of the endpoints and the keys each accepts, which
every binding checks a call against.

* `EndpointSpec.resolve`, `EndpointSpec.suggest` — the parameter a key names, and the spelling an unknown
  key was meant as;
* `ENDPOINTS` — the table;
* `EndpointSpec.WellFormed` — what the lookups need of a row, which every row has (`wellFormed`);
* `keys_unambiguous` — a key names one parameter whatever the order of the row, never the path parameter
  too, and a suggestion can be used as written.
-/

import Mathlib.Data.List.Nodup
import Mathlib.Data.List.Pairwise
import FugleMarketdata.Lib.Escaping

namespace FugleMarketdata.Rest

open Escaping

/-! ### Specs -/

/-- One query parameter of an endpoint. -/
structure ParamSpec where
  name : String
  canonical : String
  methods : List String := []
  aliases : List String := []
  flag : Option String := none
  deriving DecidableEq, Repr

/-- One endpoint's full query contract. -/
structure EndpointSpec where
  path : List String
  pathParam : Option String
  pathParamAliases : List String
  params : List ParamSpec
  deriving DecidableEq, Repr

/-- How a caller's key matched an endpoint's parameter. -/
structure Resolved where
  spec : ParamSpec
  asFlag : Bool
  deriving DecidableEq, Repr

/-- The keys that name a parameter: the wire name, the canonical name and the aliases. -/
def ParamSpec.spellings (spec : ParamSpec) : List String := [spec.name, spec.canonical] ++ spec.aliases

/-- `char::to_lowercase`, which may give more than one character. -/
structure Lowercase where
  toLowercase : Char → List Char

/-- The key in lower case, without its underscores. -/
def fold (lower : Lowercase) (key : String) : List Char :=
  (key.toList.filter (· ≠ '_')).flatMap lower.toLowercase

/-- `str::eq_ignore_ascii_case`. -/
def eqIgnoreAsciiCase (first second : String) : Bool := first.toLower = second.toLower

/-- The same bytes, but a dash of the path may be an underscore of the name. -/
def sameSegment (path name : String) : Bool :=
  (utf8 path).length = (utf8 name).length &&
    ((utf8 path).zip (utf8 name)).all fun (a, b) => a = b || (a = '-'.toUInt8 && b = '_'.toUInt8)

namespace EndpointSpec

variable (e : EndpointSpec)

/-- Whether a key names the path parameter. -/
def isPathParam (key : String) : Bool := e.pathParam = some key || e.pathParamAliases.contains key

/-- Match a caller's key against the wire name, the canonical name and the aliases. -/
def resolve (key : String) : Option Resolved :=
  e.params.findSome? fun spec =>
    if spec.name = key then some { spec, asFlag := false }
    else if spec.canonical = key || spec.aliases.contains key then some { spec, asFlag := spec.flag.isSome }
    else none

/-- All spellings, in the order of the row. -/
def spellings : List String := e.params.flatMap ParamSpec.spellings

/-- The accepted spelling an unknown key was probably meant as. -/
def suggest (lower : Lowercase) (key : String) : Option String :=
  let wanted := fold lower key
  (e.spellings.find? fun candidate => eqIgnoreAsciiCase candidate key).or
    (e.spellings.find? fun candidate => fold lower candidate = wanted)

/-- The wire names. -/
def names : List String := e.params.map ParamSpec.name

end EndpointSpec

/-! ### Shared parameters -/

def param (name canonical : String) : ParamSpec := { name, canonical }

/-- `type=oddlot` on the single-symbol stock intraday endpoints. -/
def ODD_LOT : ParamSpec := { param "type" "odd_lot" with aliases := ["oddLot"], flag := some "oddlot" }

/-- `session=afterhours` on the single-contract futopt endpoints. -/
def AFTER_HOURS : ParamSpec := { param "session" "after_hours" with flag := some "afterhours" }

/-- `session=AFTERHOURS` on the futopt list endpoints. -/
def AFTER_HOURS_LIST : ParamSpec := { param "session" "after_hours" with flag := some "AFTERHOURS" }

def FROM : ParamSpec := param "from" "from"
def TO : ParamSpec := param "to" "to"
def TIMEFRAME : ParamSpec := param "timeframe" "timeframe"
def SORT : ParamSpec := param "sort" "sort"
def FIELDS : ParamSpec := param "fields" "fields"
def OFFSET : ParamSpec := param "offset" "offset"
def LIMIT : ParamSpec := param "limit" "limit"
def IS_TRIAL : ParamSpec := param "isTrial" "is_trial"
def START_DATE : ParamSpec := param "start_date" "start_date"
def END_DATE : ParamSpec := param "end_date" "end_date"
def EXCHANGE : ParamSpec := param "exchange" "exchange"
def TYPE_LIST : ParamSpec := { param "type" "type" with methods := ["typ"] }
def TYPE_FILTER : ParamSpec := { param "type" "type" with methods := ["type_filter"] }
def CONTRACT_TYPE : ParamSpec := param "contractType" "contract_type"
def TECHNICAL_RANGE : List ParamSpec := [FROM, TO, TIMEFRAME]
def OWNERSHIP : List ParamSpec := [FROM, TO, SORT]

def stock (section_ endpoint : String) : List String := ["stock", section_, endpoint]

def futopt (section_ endpoint : String) : List String := ["futopt", section_, endpoint]

/-! ### The table -/

/-- Every endpoint the typed builders cover. -/
def ENDPOINTS : List EndpointSpec := [
  -- stock / intraday
  ⟨stock "intraday" "tickers", none, [],
    [TYPE_LIST, EXCHANGE, param "market" "market", param "industry" "industry",
      param "isNormal" "is_normal", param "isAttention" "is_attention",
      param "isDisposition" "is_disposition", param "isHalted" "is_halted", param "symbol" "symbol"]⟩,
  ⟨stock "intraday" "ticker", some "symbol", [], [ODD_LOT]⟩,
  ⟨stock "intraday" "quote", some "symbol", [], [ODD_LOT]⟩,
  ⟨stock "intraday" "candles", some "symbol", [], [TIMEFRAME, ODD_LOT, SORT]⟩,
  ⟨stock "intraday" "trades", some "symbol", [], [ODD_LOT, OFFSET, LIMIT, SORT, IS_TRIAL]⟩,
  ⟨stock "intraday" "volumes", some "symbol", [], [ODD_LOT]⟩,
  -- stock / historical
  ⟨stock "historical" "candles", some "symbol", [],
    [FROM, TO, TIMEFRAME, FIELDS, SORT, param "adjusted" "adjusted"]⟩,
  ⟨stock "historical" "stats", some "symbol", [], []⟩,
  -- stock / snapshot
  ⟨stock "snapshot" "quotes", some "market", [], [TYPE_FILTER]⟩,
  ⟨stock "snapshot" "movers", some "market", [],
    [param "direction" "direction", param "change" "change", TYPE_FILTER, param "gt" "gt",
      param "gte" "gte", param "lt" "lt", param "lte" "lte", param "eq" "eq"]⟩,
  ⟨stock "snapshot" "actives", some "market", [], [param "trade" "trade", TYPE_FILTER]⟩,
  -- stock / technical
  ⟨stock "technical" "sma", some "symbol", [], TECHNICAL_RANGE ++ [param "period" "period"]⟩,
  ⟨stock "technical" "rsi", some "symbol", [], TECHNICAL_RANGE ++ [param "period" "period"]⟩,
  ⟨stock "technical" "kdj", some "symbol", [], TECHNICAL_RANGE ++
    [param "rPeriod" "r_period", param "kPeriod" "k_period", param "dPeriod" "d_period"]⟩,
  ⟨stock "technical" "macd", some "symbol", [], TECHNICAL_RANGE ++
    [param "fast" "fast", param "slow" "slow", param "signal" "signal"]⟩,
  ⟨stock "technical" "bb", some "symbol", [], TECHNICAL_RANGE ++ [param "period" "period"]⟩,
  -- stock / corporate-actions
  ⟨stock "corporate-actions" "dividends", none, [], [START_DATE, END_DATE, EXCHANGE, SORT]⟩,
  ⟨stock "corporate-actions" "listing-applicants", none, [], [START_DATE, END_DATE, EXCHANGE, SORT]⟩,
  ⟨stock "corporate-actions" "capital-changes", none, [], [START_DATE, END_DATE, SORT]⟩,
  -- stock / ownership
  ⟨stock "ownership" "etf-holdings", some "symbol", [], OWNERSHIP⟩,
  ⟨stock "ownership" "institutional-trades", some "symbol", [], OWNERSHIP⟩,
  ⟨stock "ownership" "director-holdings", some "symbol", [], OWNERSHIP⟩,
  ⟨stock "ownership" "tdcc-distribution", some "symbol", [], OWNERSHIP⟩,
  -- futopt / intraday
  ⟨futopt "intraday" "products", none, [],
    [TYPE_LIST, EXCHANGE, AFTER_HOURS_LIST, CONTRACT_TYPE, param "status" "status"]⟩,
  ⟨futopt "intraday" "tickers", none, [],
    [TYPE_LIST, EXCHANGE, AFTER_HOURS_LIST, param "product" "product", CONTRACT_TYPE,
      param "isSpread" "is_spread"]⟩,
  ⟨futopt "intraday" "ticker", some "symbol", [], [AFTER_HOURS]⟩,
  ⟨futopt "intraday" "quote", some "symbol", [], [AFTER_HOURS]⟩,
  ⟨futopt "intraday" "candles", some "symbol", [], [AFTER_HOURS, TIMEFRAME]⟩,
  ⟨futopt "intraday" "trades", some "symbol", [], [AFTER_HOURS, OFFSET, LIMIT, IS_TRIAL]⟩,
  ⟨futopt "intraday" "volumes", some "symbol", [], [AFTER_HOURS]⟩,
  -- futopt / historical
  ⟨futopt "historical" "candles", some "symbol", ["product"],
    [FROM, TO, param "contractMonth" "contract_month", FIELDS, TIMEFRAME, SORT,
      param "strikePrice" "strike_price", param "callPut" "call_put", AFTER_HOURS]⟩,
  ⟨futopt "historical" "daily", some "product", ["symbol"],
    [param "date" "date", param "contractMonth" "contract_month", AFTER_HOURS]⟩]

namespace EndpointSpec

/-- The spec for a path. -/
def forPath (path : List String) : Option EndpointSpec := ENDPOINTS.find? fun e => e.path = path

/-- The segments of a dotted name. -/
def dotted (name : String) : List String := (name.toList.splitOn '.').map String.ofList

/-- Whether the segments are the path's. -/
def sameSegments (path segments : List String) : Bool :=
  path.length = segments.length && (path.zip segments).all fun (a, b) => sameSegment a b

/-- The spec for a dotted name; `_` and `-` are interchangeable. -/
def forName (name : String) : Option EndpointSpec :=
  ENDPOINTS.find? fun e => sameSegments e.path (dotted name)

/-! ### Rows -/

/-- What the lookups need of a row: no two of its parameters share a spelling, no spelling names the path
parameter, a row without a path parameter has no other name for it, and a flag's canonical name is not its
wire name. -/
structure WellFormed (e : EndpointSpec) : Prop where
  apart : e.params.Pairwise fun first second => ∀ key ∈ first.spellings, key ∉ second.spellings
  query : ∀ key ∈ e.spellings, e.isPathParam key = false
  bare : e.pathParam = none → e.pathParamAliases = []
  forms : ∀ spec ∈ e.params, spec.flag.isSome → spec.canonical ≠ spec.name

instance (e : EndpointSpec) : Decidable e.WellFormed :=
  decidable_of_iff
    ((e.params.Pairwise fun first second => ∀ key ∈ first.spellings, key ∉ second.spellings) ∧
      (∀ key ∈ e.spellings, e.isPathParam key = false) ∧ (e.pathParam = none → e.pathParamAliases = []) ∧
      ∀ spec ∈ e.params, spec.flag.isSome → spec.canonical ≠ spec.name)
    ⟨fun ⟨apart, query, bare, forms⟩ => ⟨apart, query, bare, forms⟩,
      fun formed => ⟨formed.apart, formed.query, formed.bare, formed.forms⟩⟩

end EndpointSpec

/-- Every row of the table is well formed. -/
theorem wellFormed : ∀ e ∈ ENDPOINTS, e.WellFormed := by decide

theorem ParamSpec.mem_spellings {spec : ParamSpec} {key : String} :
    key ∈ spec.spellings ↔ spec.name = key ∨ spec.canonical = key ∨ key ∈ spec.aliases := by
  simp [spellings, eq_comm]

theorem ParamSpec.name_mem_spellings (spec : ParamSpec) : spec.name ∈ spec.spellings :=
  mem_spellings.mpr (.inl rfl)

theorem ParamSpec.canonical_mem_spellings (spec : ParamSpec) : spec.canonical ∈ spec.spellings :=
  mem_spellings.mpr (.inr (.inl rfl))

namespace EndpointSpec

variable {e : EndpointSpec}

theorem mem_spellings {key : String} : key ∈ e.spellings ↔ ∃ spec ∈ e.params, key ∈ spec.spellings :=
  List.mem_flatMap

/-- One parameter's answer to a key. -/
def answer (key : String) (spec : ParamSpec) : Option Resolved :=
  if spec.name = key then some { spec, asFlag := false }
  else if spec.canonical = key || spec.aliases.contains key then some { spec, asFlag := spec.flag.isSome }
  else none

theorem answer_eq_some {key : String} {spec : ParamSpec} {r : Resolved} :
    answer key spec = some r ↔
      r.spec = spec ∧ key ∈ spec.spellings ∧ r.asFlag = (decide (key ≠ spec.name) && spec.flag.isSome) := by
  rw [ParamSpec.mem_spellings, answer]
  obtain ⟨own, asFlag⟩ := r
  by_cases wire : spec.name = key
  · subst wire
    rw [if_pos rfl]
    simp [eq_comm]
  · have other : key ≠ spec.name := fun same => wire same.symm
    rw [if_neg wire]
    by_cases spelled : spec.canonical = key ∨ key ∈ spec.aliases
    · rw [if_pos (by simpa using spelled)]
      constructor
      · intro same
        cases same
        exact ⟨rfl, .inr spelled, by simp [other]⟩
      · rintro ⟨rfl, -, form⟩
        simpa [other] using form.symm
    · rw [if_neg (by simpa using spelled)]
      simp [wire, spelled]

theorem resolve_eq (key : String) : e.resolve key = e.params.findSome? (answer key) := rfl

namespace WellFormed

variable (formed : e.WellFormed)

include formed

/-- A key is resolved by the parameter it spells. -/
theorem resolve_eq_some {key : String} {r : Resolved} :
    e.resolve key = some r ↔ r.spec ∈ e.params ∧ key ∈ r.spec.spellings ∧
      r.asFlag = (decide (key ≠ r.spec.name) && r.spec.flag.isSome) := by
  rw [resolve_eq]
  constructor
  · intro found
    obtain ⟨spec, member, told⟩ := List.exists_of_findSome?_eq_some found
    obtain ⟨rfl, spelled, form⟩ := answer_eq_some.mp told
    exact ⟨member, spelled, form⟩
  · rintro ⟨member, spelled, form⟩
    obtain ⟨before, behind, split⟩ := List.append_of_mem member
    refine List.findSome?_eq_some_iff.mpr
      ⟨before, r.spec, behind, split, answer_eq_some.mpr ⟨rfl, spelled, form⟩, fun earlier ahead => ?_⟩
    rw [Option.eq_none_iff_forall_ne_some]
    intro other told
    obtain ⟨-, shared, -⟩ := answer_eq_some.mp told
    have apart := formed.apart
    rw [split] at apart
    exact (List.pairwise_append.mp apart).2.2 earlier ahead r.spec List.mem_cons_self key shared spelled

theorem resolve_isSome {key : String} : (e.resolve key).isSome ↔ key ∈ e.spellings := by
  rw [Option.isSome_iff_exists, mem_spellings]
  constructor
  · rintro ⟨r, found⟩
    obtain ⟨member, spelled, -⟩ := formed.resolve_eq_some.mp found
    exact ⟨r.spec, member, spelled⟩
  · rintro ⟨spec, member, spelled⟩
    let r : Resolved := { spec, asFlag := decide (key ≠ spec.name) && spec.flag.isSome }
    exact ⟨r, formed.resolve_eq_some.mpr ⟨member, spelled, rfl⟩⟩

/-- The path parameter is no parameter of the query. -/
theorem resolve_pathParam {key : String} (named : e.isPathParam key = true) : e.resolve key = none := by
  rw [← Option.not_isSome_iff_eq_none, formed.resolve_isSome]
  intro spelled
  rw [formed.query key spelled] at named
  cases named

/-- A spelling tells the parameter. -/
theorem eq_of_spelling {first second : ParamSpec} (one : first ∈ e.params) (other : second ∈ e.params)
    {key : String} (here : key ∈ first.spellings) (there : key ∈ second.spellings) : first = second := by
  by_contra different
  have : Std.Symm fun first second : ParamSpec => ∀ key ∈ first.spellings, key ∉ second.spellings :=
    ⟨fun _ _ apart key there here => apart key here there⟩
  exact formed.apart.forall one other different key here there

theorem eq_of_name {first second : ParamSpec} (one : first ∈ e.params) (other : second ∈ e.params)
    (same : first.name = second.name) : first = second :=
  formed.eq_of_spelling one other first.name_mem_spellings (same ▸ second.name_mem_spellings)

theorem eq_of_canonical {first second : ParamSpec} (one : first ∈ e.params) (other : second ∈ e.params)
    (same : first.canonical = second.canonical) : first = second :=
  formed.eq_of_spelling one other first.canonical_mem_spellings (same ▸ second.canonical_mem_spellings)

theorem nodup_params : e.params.Nodup := by
  refine formed.apart.imp ?_
  rintro spec _ apart rfl
  exact apart _ spec.name_mem_spellings spec.name_mem_spellings

end WellFormed

/-! ### Suggestions -/

/-- A suggestion is one of the row's spellings. -/
theorem mem_spellings_of_suggest {lower : Lowercase} {key name : String}
    (found : e.suggest lower key = some name) : name ∈ e.spellings := by
  rcases Option.or_eq_some_iff.mp found with close | ⟨-, close⟩
  · exact List.mem_of_find?_eq_some close
  · exact List.mem_of_find?_eq_some close

/-- A key that differs from a spelling in case and underscores only gets a suggestion. -/
theorem suggest_isSome {lower : Lowercase} {key name : String} (spelled : name ∈ e.spellings)
    (near : fold lower name = fold lower key) : (e.suggest lower key).isSome := by
  rw [suggest, Option.isSome_or, Bool.or_eq_true]
  refine .inr (List.find?_isSome.mpr ⟨name, spelled, decide_eq_true near⟩)

/-! ### Paths -/

/-- The bytes of a segment with every underscore a dash. -/
def dashed (segment : String) : List UInt8 :=
  (utf8 segment).map fun b => if b = '_'.toUInt8 then '-'.toUInt8 else b

theorem dashed_of_sameSegment {path name : String} (same : sameSegment path name = true) :
    dashed path = dashed name := by
  rw [sameSegment, Bool.and_eq_true, decide_eq_true_eq, List.all_eq_true] at same
  obtain ⟨long, bytes⟩ := same
  refine List.ext_getElem (by simp [dashed, long]) fun i here there => ?_
  simp only [dashed, List.length_map] at here there
  have pair := bytes ((utf8 path)[i], (utf8 name)[i])
    (List.mem_iff_getElem.mpr ⟨i, by simp [here, there], by simp⟩)
  simp only [Bool.or_eq_true, Bool.and_eq_true, decide_eq_true_eq] at pair
  simp only [dashed, List.getElem_map]
  rcases pair with equal | ⟨dash, bar⟩
  · rw [equal]
  · rw [dash, bar]
    decide

theorem map_dashed_of_sameSegments {path segments : List String}
    (same : sameSegments path segments = true) : path.map dashed = segments.map dashed := by
  rw [sameSegments, Bool.and_eq_true, decide_eq_true_eq, List.all_eq_true] at same
  obtain ⟨long, each⟩ := same
  refine List.ext_getElem (by simp [long]) fun i here there => ?_
  rw [List.length_map] at here there
  rw [List.getElem_map, List.getElem_map]
  exact dashed_of_sameSegment (each (path[i], segments[i])
    (List.mem_iff_getElem.mpr ⟨i, by simp [here, there], by simp⟩))

/-- No two paths of the table are alike, dashes and underscores taken as one. -/
theorem nodup_dashed : (ENDPOINTS.map fun e => e.path.map dashed).Nodup := by decide

theorem eq_of_dashed {first second : EndpointSpec} (one : first ∈ ENDPOINTS) (other : second ∈ ENDPOINTS)
    (same : first.path.map dashed = second.path.map dashed) : first = second :=
  List.inj_on_of_nodup_map nodup_dashed one other same

theorem forPath_eq_some {path : List String} {e : EndpointSpec} (row : e ∈ ENDPOINTS) :
    forPath path = some e ↔ e.path = path := by
  constructor
  · intro found
    simpa using List.find?_some found
  · rintro rfl
    obtain ⟨other, found⟩ : ∃ other, forPath e.path = some other :=
      Option.isSome_iff_exists.mp (List.find?_isSome.mpr ⟨e, row, by simp⟩)
    have same : other.path = e.path := by simpa using List.find?_some found
    rw [found, eq_of_dashed (List.mem_of_find?_eq_some found) row (by rw [same])]

/-- The row a dotted name finds is spelled as the name is. -/
theorem sameSegments_of_forName {name : String} {e : EndpointSpec} (found : forName name = some e) :
    sameSegments e.path (dotted name) = true := by
  simpa using List.find?_some found

theorem forName_eq_some {name : String} {e : EndpointSpec} (row : e ∈ ENDPOINTS) :
    forName name = some e ↔ sameSegments e.path (dotted name) = true := by
  constructor
  · exact sameSegments_of_forName
  · intro named
    obtain ⟨other, found⟩ : ∃ other, forName name = some other :=
      Option.isSome_iff_exists.mp (List.find?_isSome.mpr ⟨e, row, named⟩)
    have alike := map_dashed_of_sameSegments (sameSegments_of_forName found)
    rw [found, eq_of_dashed (List.mem_of_find?_eq_some found) row
      (alike.trans (map_dashed_of_sameSegments named).symm)]

end EndpointSpec

/-- **A key means one thing.** In every row a key resolves to the parameter it spells, as its boolean form
where that has one and the key is not the wire name, and never names the path parameter too. A suggestion
can be used as it is, and a key that is off by case and underscores gets one. A path and a dotted name find
their own row. -/
theorem keys_unambiguous : ∀ e ∈ ENDPOINTS,
    (∀ key r, e.resolve key = some r ↔ r.spec ∈ e.params ∧ key ∈ r.spec.spellings ∧
      r.asFlag = (decide (key ≠ r.spec.name) && r.spec.flag.isSome)) ∧
    (∀ key, (e.resolve key).isSome → e.isPathParam key = false) ∧
    (∀ lower key name, e.suggest lower key = some name → (e.resolve name).isSome) ∧
    (∀ lower key, (∃ name ∈ e.spellings, fold lower name = fold lower key) → (e.suggest lower key).isSome) ∧
    (∀ path, EndpointSpec.forPath path = some e ↔ e.path = path) ∧
    (∀ name, EndpointSpec.forName name = some e ↔
      EndpointSpec.sameSegments e.path (EndpointSpec.dotted name) = true) := by
  intro e row
  have formed := wellFormed e row
  refine ⟨fun key r => formed.resolve_eq_some, fun key resolved => ?_, fun lower key name suggested => ?_, ?_,
    fun path => EndpointSpec.forPath_eq_some row, fun name => EndpointSpec.forName_eq_some row⟩
  · exact formed.query key (formed.resolve_isSome.mp resolved)
  · exact formed.resolve_isSome.mpr (EndpointSpec.mem_spellings_of_suggest suggested)
  · rintro lower key ⟨name, spelled, near⟩
    exact EndpointSpec.suggest_isSome spelled near

/-- ASCII's lower case. -/
def asciiLowercase : Lowercase where
  toLowercase c := [c.toLower]

/-- The row of the stock quote. -/
def QUOTE : EndpointSpec := ⟨stock "intraday" "quote", some "symbol", [], [ODD_LOT]⟩

/-- The quote's odd-lot flag by its alias and by a misspelling, and the row by its dotted name. -/
theorem keys_unambiguous_quote :
    QUOTE.resolve "oddLot" = some { spec := ODD_LOT, asFlag := true } ∧ QUOTE.isPathParam "oddLot" = false ∧
      (QUOTE.suggest asciiLowercase "ODDLOT").isSome ∧
      EndpointSpec.forName "stock.intraday.quote" = some QUOTE := by
  obtain ⟨resolves, query, -, near, -, named⟩ := keys_unambiguous QUOTE (by decide)
  have alias_ : QUOTE.resolve "oddLot" = some { spec := ODD_LOT, asFlag := true } :=
    (resolves "oddLot" _).mpr ⟨by decide, by decide, by decide⟩
  exact ⟨alias_, query "oddLot" (by rw [alias_]; rfl),
    near asciiLowercase "ODDLOT" ⟨"oddLot", by decide, by decide⟩, (named _).mpr (by decide)⟩

end FugleMarketdata.Rest
