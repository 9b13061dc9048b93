/-
**Errors of the core.** `MarketDataError` of `core/src/errors.rs` with every variant and its data, and
what it says of a retry. `Websocket/Event.lean` has the coarser view the reconnect loops take of an error.
-/

import Mathlib.Data.Nat.Basic

namespace FugleMarketdata.Errors

/-- Structured classification of a WebSocket failure. -/
inductive WebSocketErrorKind where
  | protocol
  | capacity
  | utf8
  | tls
  | io
  | http (status : Nat)
  | other
  deriving DecidableEq, Repr

/-- The response an error was built from. -/
structure HttpErrorContext where
  status : Nat
  body : Option String
  headers : List (String × String)
  deriving DecidableEq, Repr

/-- `MarketDataError`; durations are nanoseconds, and what another crate's error displays stands for that
error. -/
inductive MarketDataError where
  | invalidSymbol (symbol : String)
  | invalidParameter (name reason : String)
  | deserializationError (source : String)
  | runtimeError (msg : String)
  | configError (msg : String)
  | connectionError (msg : String)
  | connectionLimit (msg : String)
  | authError (msg : String) (http : Option HttpErrorContext)
  | apiError (status : Nat) (message : String) (http : Option HttpErrorContext)
  | timeoutError (operation : String)
  | webSocketError (kind : WebSocketErrorKind) (msg : String)
  | heartbeatTimeout (elapsed : Nat)
  | clientClosed
  | connectionAborted
  | alreadyConnected
  | reconnectFailed (attempts : Nat)
  | other (error : String)
  deriving DecidableEq, Repr

/-- A status that says to come back: too many requests, or the server's own failure. -/
def retryableStatus (status : Nat) : Bool := status = 429 || (500 ≤ status && status ≤ 599)

/-- `is_retryable`. -/
def MarketDataError.isRetryable : MarketDataError → Bool
  | connectionError _ | connectionLimit _ | timeoutError _ | heartbeatTimeout _ => true
  | webSocketError kind _ =>
    match kind with
    | .io | .other => true
    | .http status => retryableStatus status
    | .protocol | .capacity | .utf8 | .tls => false
  | apiError status _ _ => retryableStatus status
  | invalidParameter _ _ => false
  | _ => false

end FugleMarketdata.Errors
