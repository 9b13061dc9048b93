/-
**Typed builders.** `core/src/rest/stock/` and `core/src/rest/futopt/`: one request builder for an endpoint.

The builders differ in their path, the setter of the path parameter and the parts of the query; a builder is
these data, and `RequestBuilder.url` is the function they share.

* `RequestBuilder.Follows` — what makes a builder one of its row of the table (`follows`);
* `one_request` — a builder, a record and an object that are told the same ask for the same.
-/

import Mathlib.Data.List.ReduceOption
import FugleMarketdata.Rest.Fields

namespace FugleMarketdata.Rest

open Escaping

/-! ### The source's functions -/

/-- `form_urlencoded::byte_serialize` of a text. -/
structure Serializer where
  byteSerialize : String → String

/-- What the crate promises. -/
def Serializer.Documented (serializer : Serializer) : Prop :=
  ∀ text, (serializer.byteSerialize text).toList = formText text

/-- What a builder's setters were called with: the path parameter's, and every other by its name. A setter
without an argument counts as called with `true`. -/
structure BuilderCalls where
  segment : Option String
  value : String → Option FieldValue

/-- A part of a builder's query, with the setter it depends on. -/
inductive Part where
  | pair (wire method : String)
  | fixed (text method : String)
  | session (wire literal method : String)
  | must (wire method : String) (missing : Errors.MarketDataError)
  deriving DecidableEq, Repr

/-- A request builder. -/
structure RequestBuilder where
  path : String
  segment : Option (String × Errors.MarketDataError)
  parts : List Part
  deriving DecidableEq, Repr

section Source

variable (serializer : Serializer) (encoders : Encoders)

/-- A key and an encoded value; the key is written as it is. -/
def queryPair (key value : String) : String := key ++ "=" ++ serializer.byteSerialize value

/-- The parameter a part pushes, if its setter was called. -/
def Part.text (calls : BuilderCalls) : Part → Except Errors.MarketDataError (Option String)
  | .pair wire method => .ok ((calls.value method).map fun value => queryPair serializer wire value.display)
  | .fixed text method => .ok (if calls.value method = some (.flag true) then some text else none)
  | .session wire literal method =>
    .ok (if calls.value method = some (.flag true) then some (queryPair serializer wire literal) else none)
  | .must wire method missing =>
    match calls.value method with
    | some value => .ok (some (queryPair serializer wire value.display))
    | none => .error missing

namespace RequestBuilder

variable (builder : RequestBuilder) (calls : BuilderCalls)

/-- The last segment, for a builder that has one. -/
def lastSegment : Except Errors.MarketDataError String :=
  match builder.segment with
  | none => .ok ""
  | some (_, missing) =>
    match calls.segment with
    | some value => .ok ("/" ++ encodeSymbol encoders value)
    | none => .error missing

/-- Build the request URL, including query parameters. -/
def url (baseUrl : String) : Except Errors.MarketDataError String := do
  let segment ← builder.lastSegment encoders calls
  let texts ← builder.parts.mapM (Part.text serializer calls)
  let queryParams := texts.reduceOption
  let url := baseUrl ++ "/" ++ builder.path ++ segment
  return if queryParams.isEmpty then url else url ++ "?" ++ "&".intercalate queryParams

end RequestBuilder

end Source

/-! ### The builders -/

def notProvided : Errors.MarketDataError := .invalidSymbol "(not provided)"

def bySymbol : Option (String × Errors.MarketDataError) := some ("symbol", notProvided)

def byMarket : Option (String × Errors.MarketDataError) :=
  some ("market", .invalidParameter "market" "market is required")

def typeRequired (endpoint : String) : Errors.MarketDataError :=
  .configError s!"type parameter is required for {endpoint} endpoint"

def oddLotPart : Part := .fixed "type=oddlot" "odd_lot"

namespace Stock

def TickersRequestBuilder : RequestBuilder := ⟨"stock/intraday/tickers", none,
  [.must "type" "typ" (typeRequired "tickers"), .pair "exchange" "exchange", .pair "market" "market",
    .pair "industry" "industry", .pair "isNormal" "is_normal", .pair "isAttention" "is_attention",
    .pair "isDisposition" "is_disposition", .pair "isHalted" "is_halted", .pair "symbol" "symbol"]⟩

def TickerRequestBuilder : RequestBuilder := ⟨"stock/intraday/ticker", bySymbol, [oddLotPart]⟩

def QuoteRequestBuilder : RequestBuilder := ⟨"stock/intraday/quote", bySymbol, [oddLotPart]⟩

def CandlesRequestBuilder : RequestBuilder := ⟨"stock/intraday/candles", bySymbol,
  [.pair "timeframe" "timeframe", oddLotPart, .pair "sort" "sort"]⟩

def TradesRequestBuilder : RequestBuilder := ⟨"stock/intraday/trades", bySymbol,
  [oddLotPart, .pair "offset" "offset", .pair "limit" "limit", .pair "sort" "sort",
    .pair "isTrial" "is_trial"]⟩

def VolumesRequestBuilder : RequestBuilder := ⟨"stock/intraday/volumes", bySymbol, [oddLotPart]⟩

def HistoricalCandlesRequestBuilder : RequestBuilder := ⟨"stock/historical/candles", bySymbol,
  [.pair "from" "from", .pair "to" "to", .pair "timeframe" "timeframe", .pair "fields" "fields",
    .pair "sort" "sort", .pair "adjusted" "adjusted"]⟩

def StatsRequestBuilder : RequestBuilder := ⟨"stock/historical/stats", bySymbol, []⟩

def SnapshotQuotesRequestBuilder : RequestBuilder := ⟨"stock/snapshot/quotes", byMarket,
  [.pair "type" "type_filter"]⟩

def MoversRequestBuilder : RequestBuilder := ⟨"stock/snapshot/movers", byMarket,
  [.pair "direction" "direction", .pair "change" "change", .pair "type" "type_filter", .pair "gt" "gt",
    .pair "gte" "gte", .pair "lt" "lt", .pair "lte" "lte", .pair "eq" "eq"]⟩

def ActivesRequestBuilder : RequestBuilder := ⟨"stock/snapshot/actives", byMarket,
  [.pair "trade" "trade", .pair "type" "type_filter"]⟩

/-- The range every indicator takes. -/
def technicalRange : List Part := [.pair "from" "from", .pair "to" "to", .pair "timeframe" "timeframe"]

def SmaRequestBuilder : RequestBuilder := ⟨"stock/technical/sma", bySymbol,
  technicalRange ++ [.pair "period" "period"]⟩

def RsiRequestBuilder : RequestBuilder := ⟨"stock/technical/rsi", bySymbol,
  technicalRange ++ [.pair "period" "period"]⟩

def KdjRequestBuilder : RequestBuilder := ⟨"stock/technical/kdj", bySymbol,
  technicalRange ++ [.pair "rPeriod" "r_period", .pair "kPeriod" "k_period", .pair "dPeriod" "d_period"]⟩

def MacdRequestBuilder : RequestBuilder := ⟨"stock/technical/macd", bySymbol,
  technicalRange ++ [.pair "fast" "fast", .pair "slow" "slow", .pair "signal" "signal"]⟩

def BbRequestBuilder : RequestBuilder := ⟨"stock/technical/bb", bySymbol,
  technicalRange ++ [.pair "period" "period"]⟩

def DividendsRequestBuilder : RequestBuilder := ⟨"stock/corporate-actions/dividends", none,
  [.pair "start_date" "start_date", .pair "end_date" "end_date", .pair "exchange" "exchange",
    .pair "sort" "sort"]⟩

def ListingApplicantsRequestBuilder : RequestBuilder := ⟨"stock/corporate-actions/listing-applicants", none,
  [.pair "start_date" "start_date", .pair "end_date" "end_date", .pair "exchange" "exchange",
    .pair "sort" "sort"]⟩

def CapitalChangesRequestBuilder : RequestBuilder := ⟨"stock/corporate-actions/capital-changes", none,
  [.pair "start_date" "start_date", .pair "end_date" "end_date", .pair "sort" "sort"]⟩

/-- `range::url`: the four ownership endpoints. -/
def ownership (endpoint : String) : RequestBuilder := ⟨"stock/ownership/" ++ endpoint, bySymbol,
  [.pair "from" "from", .pair "to" "to", .pair "sort" "sort"]⟩

def EtfHoldingsRequestBuilder : RequestBuilder := ownership "etf-holdings"

def InstitutionalTradesRequestBuilder : RequestBuilder := ownership "institutional-trades"

def DirectorHoldingsRequestBuilder : RequestBuilder := ownership "director-holdings"

def TdccDistributionRequestBuilder : RequestBuilder := ownership "tdcc-distribution"

end Stock

namespace FutOpt

/-- `after_hours()` of the single-contract endpoints. -/
def afterHours : Part := .session "session" "afterhours" "after_hours"

/-- `after_hours()` of the list endpoints. -/
def afterHoursList : Part := .session "session" "AFTERHOURS" "after_hours"

def ProductsRequestBuilder : RequestBuilder := ⟨"futopt/intraday/products", none,
  [.must "type" "typ" (typeRequired "products"), .pair "exchange" "exchange", afterHoursList,
    .pair "contractType" "contract_type", .pair "status" "status"]⟩

def TickersRequestBuilder : RequestBuilder := ⟨"futopt/intraday/tickers", none,
  [.must "type" "typ" (typeRequired "tickers"), .pair "exchange" "exchange", afterHoursList,
    .pair "product" "product", .pair "contractType" "contract_type", .pair "isSpread" "is_spread"]⟩

def TickerRequestBuilder : RequestBuilder := ⟨"futopt/intraday/ticker", bySymbol, [afterHours]⟩

def QuoteRequestBuilder : RequestBuilder := ⟨"futopt/intraday/quote", bySymbol, [afterHours]⟩

def CandlesRequestBuilder : RequestBuilder := ⟨"futopt/intraday/candles", bySymbol,
  [.pair "timeframe" "timeframe", afterHours]⟩

def TradesRequestBuilder : RequestBuilder := ⟨"futopt/intraday/trades", bySymbol,
  [.pair "offset" "offset", .pair "limit" "limit", afterHours, .pair "isTrial" "is_trial"]⟩

def VolumesRequestBuilder : RequestBuilder := ⟨"futopt/intraday/volumes", bySymbol, [afterHours]⟩

def FutOptHistoricalCandlesRequestBuilder : RequestBuilder := ⟨"futopt/historical/candles", bySymbol,
  [.pair "from" "from", .pair "to" "to", .pair "contractMonth" "contract_month", .pair "fields" "fields",
    .pair "timeframe" "timeframe", .pair "sort" "sort", .pair "strikePrice" "strike_price",
    .pair "callPut" "call_put", .fixed "session=afterhours" "after_hours"]⟩

def FutOptDailyRequestBuilder : RequestBuilder := ⟨"futopt/historical/daily", some ("product", notProvided),
  [.pair "date" "date", .pair "contractMonth" "contract_month", .fixed "session=afterhours" "after_hours"]⟩

end FutOpt

/-- The builders, in the order of the table. -/
def BUILDERS : List RequestBuilder := [
  Stock.TickersRequestBuilder, Stock.TickerRequestBuilder, Stock.QuoteRequestBuilder,
  Stock.CandlesRequestBuilder, Stock.TradesRequestBuilder, Stock.VolumesRequestBuilder,
  Stock.HistoricalCandlesRequestBuilder, Stock.StatsRequestBuilder, Stock.SnapshotQuotesRequestBuilder,
  Stock.MoversRequestBuilder, Stock.ActivesRequestBuilder, Stock.SmaRequestBuilder, Stock.RsiRequestBuilder,
  Stock.KdjRequestBuilder, Stock.MacdRequestBuilder, Stock.BbRequestBuilder, Stock.DividendsRequestBuilder,
  Stock.ListingApplicantsRequestBuilder, Stock.CapitalChangesRequestBuilder,
  Stock.EtfHoldingsRequestBuilder, Stock.InstitutionalTradesRequestBuilder,
  Stock.DirectorHoldingsRequestBuilder, Stock.TdccDistributionRequestBuilder,
  FutOpt.ProductsRequestBuilder, FutOpt.TickersRequestBuilder, FutOpt.TickerRequestBuilder,
  FutOpt.QuoteRequestBuilder, FutOpt.CandlesRequestBuilder, FutOpt.TradesRequestBuilder,
  FutOpt.VolumesRequestBuilder, FutOpt.FutOptHistoricalCandlesRequestBuilder,
  FutOpt.FutOptDailyRequestBuilder]

/-! ### Builders and rows -/

def Part.method : Part → String
  | .pair _ method | .fixed _ method | .session _ _ method | .must _ method _ => method

/-- A part pushes what the parameter sends. -/
def Part.Sends (spec : ParamSpec) : Part → Prop
  | .pair wire _ | .must wire _ _ => wire = spec.name ∧ spec.flag = none
  | .fixed text _ => spec.flag.map (fun literal => pairText (spec.name, literal)) = some text.toList
  | .session wire literal _ => wire = spec.name ∧ spec.flag = some literal

instance (spec : ParamSpec) (part : Part) : Decidable (part.Sends spec) := by
  unfold Part.Sends
  cases part <;> infer_instance

/-- The builder methods that set a parameter. -/
def ParamSpec.setters (spec : ParamSpec) : List String :=
  if spec.methods.isEmpty then [spec.canonical] else spec.methods

/-- The parameter a builder method sets. -/
def EndpointSpec.setBy (e : EndpointSpec) (method : String) : Option ParamSpec :=
  e.params.find? fun spec => spec.setters.contains method

namespace RequestBuilder

/-- A builder of a row: its path, its path parameter, one part for each parameter, and names the query does
not have to encode. -/
structure Follows (builder : RequestBuilder) (e : EndpointSpec) : Prop where
  path : '/' :: builder.path.toList = pathText e.path
  segment : builder.segment.map Prod.fst = e.pathParam
  parts : (builder.parts.map fun part => e.setBy part.method).Perm (e.params.map some)
  sends : ∀ part ∈ builder.parts, ∀ spec ∈ e.setBy part.method, part.Sends spec
  plain : ∀ spec ∈ e.params, formText spec.name = spec.name.toList

instance (builder : RequestBuilder) (e : EndpointSpec) : Decidable (builder.Follows e) :=
  decidable_of_iff
    ('/' :: builder.path.toList = pathText e.path ∧ builder.segment.map Prod.fst = e.pathParam ∧
      (builder.parts.map fun part => e.setBy part.method).Perm (e.params.map some) ∧
      (∀ part ∈ builder.parts, ∀ spec ∈ e.setBy part.method, part.Sends spec) ∧
      ∀ spec ∈ e.params, formText spec.name = spec.name.toList)
    ⟨fun ⟨path, segment, parts, sends, plain⟩ => ⟨path, segment, parts, sends, plain⟩,
      fun follows => ⟨follows.path, follows.segment, follows.parts, follows.sends, follows.plain⟩⟩

end RequestBuilder

/-- Every builder follows its row. -/
theorem follows : ∀ row ∈ BUILDERS.zip ENDPOINTS, row.1.Follows row.2 := by decide +kernel

/-- A builder told the settings. -/
def Settings.calls {e : EndpointSpec} (settings : Settings e) (segment : Option String) : BuilderCalls where
  segment := segment
  value method := (e.setBy method).bind fun spec => settings.value spec.canonical

/-! ### One part -/

/-- The values of the settings are of the parameter's kind. -/
theorem Settings.kind {e : EndpointSpec} (settings : Settings e) (formed : e.WellFormed) {spec : ParamSpec}
    (row : spec ∈ e.params) {value : FieldValue} (set_ : settings.value spec.canonical = some value) :
    spec.flag.isSome = value.isFlag := by
  obtain ⟨other, there, same, kind⟩ := settings.known _ (settings.value_eq_some.mp set_)
  obtain rfl := formed.eq_of_canonical there row same
  exact kind

section Parts

variable {serializer : Serializer} (serialized : serializer.Documented) {e : EndpointSpec}
  (formed : e.WellFormed) (settings : Settings e)

include serialized

theorem toList_queryPair {name : String} (plain : formText name = name.toList) (value : String) :
    (queryPair serializer name value).toList = pairText (name, value) := by
  rw [queryPair, String.toList_append, String.toList_append, serialized, pairText, plain]
  simp

include formed

/-- A part pushes what its parameter sends, or is a required one that nobody set. -/
theorem Part.text_cases (segment : Option String) {part : Part} {spec : ParamSpec} (row : spec ∈ e.params)
    (plain : formText spec.name = spec.name.toList) (set_ : e.setBy part.method = some spec)
    (sends : part.Sends spec) :
    (∃ text, part.text serializer (settings.calls segment) = .ok text ∧
        text.toList.map String.toList = (settings.gives spec).map pairText) ∨
      ∃ wire method missing, part = .must wire method missing ∧
        (settings.calls segment).value method = none ∧
        part.text serializer (settings.calls segment) = .error missing := by
  have value (method : String) (same : e.setBy method = some spec) :
      (settings.calls segment).value method = settings.value spec.canonical := by
    simp only [Settings.calls, same, Option.bind_some]
  have written := toList_queryPair serialized plain
  cases given : settings.value spec.canonical with
  | none =>
    have nothing : settings.gives spec = [] := by rw [Settings.gives, given]; rfl
    rw [nothing]
    cases part with
    | pair wire method => exact .inl ⟨none, by rw [Part.text, value method set_, given]; rfl, rfl⟩
    | fixed text method => exact .inl ⟨none, by simp [Part.text, value method set_, given], rfl⟩
    | session wire literal method => exact .inl ⟨none, by simp [Part.text, value method set_, given], rfl⟩
    | must wire method missing =>
      exact .inr ⟨wire, method, missing, rfl, by rw [value method set_, given],
        by simp only [Part.text, value method set_, given]⟩
  | some setting =>
    have kind := settings.kind formed row given
    have own : settings.gives spec = spec.sends setting := by rw [Settings.gives, given]; rfl
    have plainSends (bare : spec.flag = none) : spec.sends setting = [(spec.name, setting.display)] := by
      rw [bare] at kind
      cases setting <;> first | rfl | cases kind
    have flagged {literal : String} (flag : spec.flag = some literal) : ∃ on, setting = .flag on := by
      rw [flag] at kind
      cases setting <;> first | exact ⟨_, rfl⟩ | cases kind
    rw [own]
    refine .inl ?_
    cases part with
    | pair wire method =>
      obtain ⟨rfl, bare⟩ := sends
      refine ⟨some (queryPair serializer spec.name setting.display), ?_, ?_⟩
      · rw [Part.text, value method set_, given]
        rfl
      · simp [plainSends bare, written]
    | must wire method missing =>
      obtain ⟨rfl, bare⟩ := sends
      refine ⟨some (queryPair serializer spec.name setting.display), ?_, ?_⟩
      · simp only [Part.text, value method set_, given]
      · simp [plainSends bare, written]
    | fixed text method =>
      obtain ⟨literal, flag, same⟩ := Option.map_eq_some_iff.mp sends
      obtain ⟨on, rfl⟩ := flagged flag
      by_cases on_ : on = true
      · subst on_
        exact ⟨some text, by simp [Part.text, value method set_, given],
          by simp [ParamSpec.sends, flag, same]⟩
      · rw [Bool.not_eq_true] at on_
        subst on_
        exact ⟨none, by simp [Part.text, value method set_, given], by simp [ParamSpec.sends]⟩
    | session wire literal method =>
      obtain ⟨rfl, flag⟩ := sends
      obtain ⟨on, rfl⟩ := flagged flag
      by_cases on_ : on = true
      · subst on_
        exact ⟨some (queryPair serializer spec.name literal), by simp [Part.text, value method set_, given],
          by simp [ParamSpec.sends, flag, written]⟩
      · rw [Bool.not_eq_true] at on_
        subst on_
        exact ⟨none, by simp [Part.text, value method set_, given], by simp [ParamSpec.sends]⟩

/-- All parts, as the parameters they set. -/
theorem texts_eq {segment : Option String} {parts : List Part} {texts : List (Option String)}
    (each : ∀ part ∈ parts, ∃ spec ∈ e.params, e.setBy part.method = some spec ∧ part.Sends spec ∧
      formText spec.name = spec.name.toList)
    (built : parts.mapM (Part.text serializer (settings.calls segment)) = .ok texts) :
    texts.reduceOption.map String.toList =
      ((parts.filterMap fun part => e.setBy part.method).flatMap settings.gives).map pairText := by
  induction parts generalizing texts with
  | nil =>
    cases built
    rfl
  | cons part rest ih =>
    obtain ⟨spec, row, set_, sends, plain⟩ := each part List.mem_cons_self
    rw [List.mapM_cons] at built
    rcases Part.text_cases serialized formed settings segment row plain set_ sends with
      ⟨text, told, same⟩ | ⟨_, _, missing, -, -, told⟩
    · rw [told] at built
      cases others : rest.mapM (Part.text serializer (settings.calls segment)) with
      | error err =>
        rw [others] at built
        cases built
      | ok more =>
        rw [others] at built
        cases built
        have tail := ih (fun other member => each other (List.mem_cons_of_mem _ member)) others
        have first : (part :: rest).filterMap (fun part => e.setBy part.method) =
            spec :: rest.filterMap fun part => e.setBy part.method := List.filterMap_cons_some set_
        rw [first, List.flatMap_cons, List.map_append, ← same, ← tail]
        cases text with
        | none => simp [List.reduceOption_cons_of_none]
        | some text => simp [List.reduceOption_cons_of_some]
    · rw [told] at built
      cases built

omit serialized formed in
/-- A build that stops is one without a required setting. -/
theorem texts_error {calls : BuilderCalls} {parts : List Part} {err : Errors.MarketDataError}
    (stopped : parts.mapM (Part.text serializer calls) = .error err) :
    ∃ wire method, .must wire method err ∈ parts ∧ calls.value method = none := by
  induction parts with
  | nil => cases stopped
  | cons part rest ih =>
    rw [List.mapM_cons] at stopped
    cases told : part.text serializer calls with
    | error other =>
      rw [told] at stopped
      cases stopped
      cases part with
      | must wire method missing =>
        cases set_ : calls.value method with
        | some value => simp [Part.text, set_] at told
        | none =>
          simp only [Part.text, set_] at told
          cases told
          exact ⟨wire, method, List.mem_cons_self, set_⟩
      | _ => cases told
    | ok text =>
      rw [told] at stopped
      cases others : rest.mapM (Part.text serializer calls) with
      | ok more =>
        rw [others] at stopped
        cases stopped
      | error other =>
        rw [others] at stopped
        cases stopped
        obtain ⟨wire, method, member, none_⟩ := ih others
        exact ⟨wire, method, List.mem_cons_of_mem _ member, none_⟩

omit serialized formed in
theorem must_set {calls : BuilderCalls} {parts : List Part} {texts : List (Option String)}
    (built : parts.mapM (Part.text serializer calls) = .ok texts) {wire method : String}
    {missing : Errors.MarketDataError} (member : .must wire method missing ∈ parts) :
    (calls.value method).isSome := by
  induction parts generalizing texts with
  | nil => cases member
  | cons part rest ih =>
    rw [List.mapM_cons] at built
    cases told : part.text serializer calls with
    | error err =>
      rw [told] at built
      cases built
    | ok text =>
      rcases List.mem_cons.mp member with rfl | member
      · cases set_ : calls.value method with
        | some value => rfl
        | none =>
          simp only [Part.text, set_] at told
          cases told
      · rw [told] at built
        cases others : rest.mapM (Part.text serializer calls) with
        | error err =>
          rw [others] at built
          cases built
        | ok more => exact ih others member

end Parts

/-! ### The whole URL -/

/-- Nothing the builder insists on is missing. -/
structure RequestBuilder.Complete (builder : RequestBuilder) (calls : BuilderCalls) : Prop where
  segment : builder.segment.isSome → calls.segment.isSome
  required : ∀ wire method missing, .must wire method missing ∈ builder.parts → (calls.value method).isSome

section Url

variable {serializer : Serializer} {encoders : Encoders} {builder : RequestBuilder} {calls : BuilderCalls}

/-- The parts of a URL that was built. -/
theorem url_ok {baseUrl url : String} (built : builder.url serializer encoders calls baseUrl = .ok url) :
    ∃ segment texts, builder.lastSegment encoders calls = .ok segment ∧
      builder.parts.mapM (Part.text serializer calls) = .ok texts ∧
      url = if texts.reduceOption.isEmpty then baseUrl ++ "/" ++ builder.path ++ segment
        else baseUrl ++ "/" ++ builder.path ++ segment ++ "?" ++ "&".intercalate texts.reduceOption := by
  rw [RequestBuilder.url] at built
  cases last : builder.lastSegment encoders calls with
  | error err =>
    rw [last] at built
    cases built
  | ok segment =>
    rw [last] at built
    cases parts : builder.parts.mapM (Part.text serializer calls) with
    | error err =>
      rw [parts] at built
      cases built
    | ok texts =>
      rw [parts] at built
      cases built
      exact ⟨segment, texts, rfl, rfl, rfl⟩

/-- A builder that is told everything it insists on builds a URL, and no other does. -/
theorem exists_url_iff {baseUrl : String} :
    (∃ url, builder.url serializer encoders calls baseUrl = .ok url) ↔ builder.Complete calls := by
  constructor
  · rintro ⟨url, built⟩
    obtain ⟨segment, texts, last, parts, -⟩ := url_ok built
    refine ⟨fun has => ?_, fun wire method missing member => must_set parts member⟩
    rw [RequestBuilder.lastSegment] at last
    obtain ⟨⟨setter, missing⟩, own⟩ := Option.isSome_iff_exists.mp has
    rw [own] at last
    cases given : calls.segment with
    | some value => rfl
    | none =>
      simp only [given] at last
      cases last
  · rintro ⟨has, required⟩
    obtain ⟨segment, last⟩ : ∃ segment, builder.lastSegment encoders calls = .ok segment := by
      rw [RequestBuilder.lastSegment]
      cases own : builder.segment with
      | none => exact ⟨_, rfl⟩
      | some setter =>
        obtain ⟨value, given⟩ := Option.isSome_iff_exists.mp (has (by rw [own]; rfl))
        rw [given]
        exact ⟨_, rfl⟩
    cases parts : builder.parts.mapM (Part.text serializer calls) with
    | error err =>
      obtain ⟨wire, method, member, none_⟩ := texts_error parts
      have set_ := required wire method err member
      rw [none_] at set_
      cases set_
    | ok texts =>
      rw [RequestBuilder.url, last, parts]
      exact ⟨_, rfl⟩

/-- The segment a builder appends. -/
theorem toList_lastSegment (documented : encoders.Documented) {segment : String}
    (last : builder.lastSegment encoders calls = .ok segment) :
    segment.toList = if builder.segment.isSome then pathText calls.segment.toList else [] := by
  rw [RequestBuilder.lastSegment] at last
  cases own : builder.segment with
  | none =>
    rw [own] at last
    cases last
    rfl
  | some setter =>
    rw [own] at last
    cases given : calls.segment with
    | none =>
      simp only [given] at last
      cases last
    | some value =>
      simp only [given] at last
      cases last
      rw [String.toList_append, toList_encodeSymbol documented]
      simp [pathText]

end Url

theorem pathText_append (front back : List String) : pathText (front ++ back) = pathText front ++ pathText back :=
  List.flatMap_append

/-- A builder's URL is the one `endpoint_url` makes of the settings. -/
theorem url_settings {serializer : Serializer} {encoders : Encoders} (serialized : serializer.Documented)
    (documented : encoders.Documented) {builder : RequestBuilder} {e : EndpointSpec} (formed : e.WellFormed)
    (follows : builder.Follows e) (settings : Settings e) {segment : Option String}
    (bare : e.pathParam = none → segment = none) {baseUrl url : String}
    (built : builder.url serializer encoders (settings.calls segment) baseUrl = .ok url) :
    ∃ query, query.Perm settings.wire ∧
      url = endpointUrl encoders baseUrl (e.path ++ segment.toList) query := by
  obtain ⟨last, texts, ends, parts, rfl⟩ := url_ok built
  let specs := builder.parts.filterMap fun part => e.setBy part.method
  have moved : specs.Perm e.params := by
    have same := follows.parts.filterMap id
    simpa [List.filterMap_map, Function.comp_def] using same
  have each : ∀ part ∈ builder.parts, ∃ spec ∈ e.params, e.setBy part.method = some spec ∧
      part.Sends spec ∧ formText spec.name = spec.name.toList := by
    intro part member
    obtain ⟨spec, row, set_⟩ := List.mem_map.mp
      (follows.parts.mem_iff.mp (List.mem_map_of_mem (f := fun part => e.setBy part.method) member))
    exact ⟨spec, row, set_.symm, follows.sends part member spec set_.symm, follows.plain spec row⟩
  have written := texts_eq serialized formed settings each parts
  have appended : (if builder.segment.isSome then pathText segment.toList else []) =
      pathText segment.toList := by
    cases named : builder.segment with
    | some setter => rfl
    | none =>
      have own := follows.segment
      rw [named] at own
      rw [bare own.symm]
      rfl
  have path : '/' :: (builder.path.toList ++ last.toList) = pathText (e.path ++ segment.toList) := by
    rw [pathText_append, ← follows.path, toList_lastSegment documented ends]
    exact congrArg (fun rest => '/' :: (builder.path.toList ++ rest)) appended
  refine ⟨specs.flatMap settings.gives, moved.flatMap_right settings.gives, String.toList_inj.mp ?_⟩
  rw [toList_endpointUrl documented, ← path, queryText]
  by_cases empty : specs.flatMap settings.gives = []
  · have none_ : texts.reduceOption = [] := List.map_eq_nil_iff.mp (written.trans (by
      show (specs.flatMap settings.gives).map pairText = []
      rw [empty, List.map_nil]))
    rw [none_, empty]
    simp
  · have some_ : texts.reduceOption ≠ [] := by
      intro none_
      rw [none_, List.map_nil] at written
      exact empty (List.map_eq_nil_iff.mp written.symm)
    rw [if_neg (by simpa using some_), if_neg (by simpa using empty)]
    simp only [String.toList_append, String.toList_intercalate, written, List.append_assoc,
      List.cons_append]
    rfl

/-- **One request, however it is made.** Told the same settings, a typed builder, a params record and a params
object ask for the same path and, up to the order, the same pairs. A builder refuses only what misses its
path parameter or a setting it insists on. -/
theorem one_request {serializer : Serializer} {encoders : Encoders} (serialized : serializer.Documented)
    (documented : encoders.Documented) : ∀ row ∈ BUILDERS.zip ENDPOINTS, ∀ (settings : Settings row.2)
      (segment : Option String) (baseUrl : String), (row.2.pathParam = none → segment = none) →
    ((∃ url, row.1.url serializer encoders (settings.calls segment) baseUrl = .ok url) ↔
      row.1.Complete (settings.calls segment)) ∧
    (∀ url, row.1.url serializer encoders (settings.calls segment) baseUrl = .ok url → ∃ query,
      query.Perm settings.wire ∧ url = endpointUrl encoders baseUrl (row.2.path ++ segment.toList) query) ∧
    (∃ query, FieldRequest.send ⟨row.2.path, segment, settings.fields⟩ =
        .ok ⟨row.2.path ++ segment.toList, query⟩ ∧ query.Perm settings.wire) ∧
    ∀ lower params, settings.Holds segment params → ∃ query, getWithParams lower row.2.path params =
        .ok ⟨row.2.path ++ segment.toList, query⟩ ∧ query.Perm settings.wire := by
  rintro ⟨builder, e⟩ member settings segment baseUrl bare
  have row : e ∈ ENDPOINTS := (List.of_mem_zip member).2
  refine ⟨exists_url_iff, fun url built => ?_, settings.send_fields row segment,
    fun lower params holds => settings.send_object row lower holds⟩
  exact url_settings serialized documented (wellFormed e row) (follows _ member) settings bare built

/-- A serializer that does what is promised. -/
def byteSerializer : Serializer where
  byteSerialize text := String.ofList (formText text)

/-- The row of the stock trades. -/
def TRADES : EndpointSpec :=
  ⟨stock "intraday" "trades", some "symbol", [], [ODD_LOT, OFFSET, LIMIT, SORT, IS_TRIAL]⟩

/-- Fifty odd-lot trades. -/
def oddLotTrades : Settings TRADES where
  fields := [("limit", .u32 50), ("odd_lot", .flag true)]
  known := by decide
  distinct := by decide

/-- The builder, the record and the object of fifty odd-lot trades: the builder writes the flag first. -/
theorem one_request_trades :
    (∃ query, query.Perm oddLotTrades.wire ∧ "https://h/v1.0/stock/intraday/trades/2330?type=oddlot&limit=50" =
      endpointUrl byteEncoders "https://h/v1.0" (TRADES.path ++ ["2330"]) query) ∧
    (∃ query, FieldRequest.send ⟨TRADES.path, some "2330", oddLotTrades.fields⟩ =
      .ok ⟨TRADES.path ++ ["2330"], query⟩ ∧ query.Perm oddLotTrades.wire) ∧
    ∃ query, getWithParams asciiLowercase TRADES.path
        ⟨[("symbol", .string "2330"), ("limit", .number "50"), ("odd_lot", .bool true)], by decide⟩ =
      .ok ⟨TRADES.path ++ ["2330"], query⟩ ∧ query.Perm oddLotTrades.wire := by
  have serialized : byteSerializer.Documented := fun _ => String.toList_ofList
  obtain ⟨-, builder, record, object⟩ := one_request serialized byteEncoders_documented
    (Stock.TradesRequestBuilder, TRADES) (by decide) oddLotTrades (some "2330") "https://h/v1.0" (by decide)
  refine ⟨builder _ (by decide), record, object asciiLowercase _ ⟨?_, ?_⟩⟩
  · intro bare
    cases bare
  · intro name named
    exact ⟨"symbol", "2330", rfl, by decide, List.Perm.refl _⟩

example : BUILDERS.length = ENDPOINTS.length := by decide

end FugleMarketdata.Rest
