/-
**Subscription requests.** `core/src/models/subscription.rs`, `core/src/models/symbols.rs` and
`core/src/websocket/channels/`.

A request names a channel, at most one of `symbol` and `symbols`, and the two session modifiers. A
batch goes out as one frame but is stored as one row per symbol (`expand`), and `key` is the
identity a row is stored under: `channel:symbol`, with `:afterhours` or `:oddlot` behind it.
-/

import Mathlib.Data.List.Basic

namespace FugleMarketdata

/-- Stock channels. -/
inductive Channel where
  | trades | candles | books | aggregates | indices
  deriving DecidableEq, Repr

def Channel.asStr : Channel → String
  | trades => "trades"
  | candles => "candles"
  | books => "books"
  | aggregates => "aggregates"
  | indices => "indices"

/-- FutOpt channels: the stock ones without `indices`. -/
inductive FutOptChannel where
  | trades | books | candles | aggregates
  deriving DecidableEq, Repr

def FutOptChannel.asStr : FutOptChannel → String
  | trades => "trades"
  | books => "books"
  | candles => "candles"
  | aggregates => "aggregates"

/-- What a caller subscribes to: one symbol or a batch. -/
inductive Symbols where
  | single (symbol : String)
  | many (symbols : List String)
  deriving DecidableEq, Repr

/-! ### Subscribe requests -/

/-- A subscription request, on the wire and as a stored row. -/
structure SubscribeRequest where
  channel : String := ""
  symbol : Option String := none
  symbols : Option (List String) := none
  afterHours : Option Bool := none
  intradayOddLot : Option Bool := none
  deriving DecidableEq, Repr

namespace SubscribeRequest

/-- One row per symbol of a batch, the modifiers copied to each; any other request as it is. -/
def expand (req : SubscribeRequest) : List SubscribeRequest :=
  match req.symbols with
  | some symbols => symbols.map fun s =>
      { channel := req.channel, symbol := some s, symbols := none, afterHours := req.afterHours,
        intradayOddLot := req.intradayOddLot }
  | none => [req]

/-- The identity a row is stored under. -/
def key (req : SubscribeRequest) : String :=
  let base := match req.symbol with
    | some symbol => req.channel ++ ":" ++ symbol
    | none => req.channel
  if req.afterHours = some true then base ++ ":afterhours"
  else if req.intradayOddLot = some true then base ++ ":oddlot"
  else base

/-- The keys a request subscribes: those of the rows it expands into. -/
def rowKeys (req : SubscribeRequest) : List String := req.expand.map key

end SubscribeRequest

/-- The ids an unsubscribe frame carries: `id` for one, `ids` for many. -/
structure UnsubscribeRequest where
  id : Option String := none
  ids : Option (List String) := none
  deriving DecidableEq, Repr

namespace UnsubscribeRequest

def byId (id : String) : UnsubscribeRequest := { id := some id }

def byIds (ids : List String) : UnsubscribeRequest := { ids := some ids }

/-- The ids the server reads out of the request. -/
def wireIds (req : UnsubscribeRequest) : List String := req.id.toList ++ req.ids.getD []

end UnsubscribeRequest

/-- An outbound request; its JSON text is what `serde_json` makes of it. -/
inductive WebSocketRequest where
  | subscribe (sub : SubscribeRequest)
  | unsubscribe (unsub : UnsubscribeRequest)
  | ping (state : Option String)
  | subscriptions
  deriving DecidableEq, Repr

/-! ### Caller-facing subscriptions -/

/-- A stock subscription; `intradayOddLot` is the odd-lot session. -/
structure StockSubscription where
  channel : Channel
  symbols : Symbols
  intradayOddLot : Bool := false
  deriving DecidableEq, Repr

/-- A FutOpt subscription; `afterHours` is the after-hours session. -/
structure FutOptSubscription where
  channel : FutOptChannel
  symbols : Symbols
  afterHours : Bool := false
  deriving DecidableEq, Repr

end FugleMarketdata
