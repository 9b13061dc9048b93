/-
**Connection states and events.** `core/src/websocket/connection_event.rs`, with what `errors.rs`
gives the events they carry.

Durations and clock readings are numbers of nanoseconds.
-/

import FugleMarketdata.Models.Message

namespace FugleMarketdata

/-! ### Errors -/

/-- Coarse classification of an error. -/
inductive ErrorKind where
  | network | protocol | auth | rateLimit | client
  deriving DecidableEq, Repr

/-- `error_code::RECONNECT_CONFLICT`. -/
def RECONNECT_CONFLICT : Int := 3006

/-- What an `Error` event carries, the HTTP context of REST errors left out. -/
structure ErrorInfo where
  code : Int
  sourceKind : ErrorKind
  message : String
  status : Option Nat := none
  deriving DecidableEq, Repr

/-- The errors a connection attempt ends in, as far as the reconnect loops tell them apart:
`ClientClosed`, `AuthError`, and every other one through its `info()`. -/
inductive MarketDataError where
  | clientClosed
  | authError (msg : String)
  | other (info : ErrorInfo)
  deriving DecidableEq, Repr

/-! ### States and events -/

/-- Who initiated a disconnect. -/
inductive DisconnectIntent where
  | client | server | network
  deriving DecidableEq, Repr

/-- The connection state machine's states. -/
inductive ConnectionState where
  | disconnected
  | connecting
  | authenticating
  | connected
  | reconnecting (attempt : Nat)
  | closed (code : Option Nat) (reason : String) (intent : DisconnectIntent)
  deriving DecidableEq, Repr

def ConnectionState.isClosed : ConnectionState → Bool
  | closed _ _ _ => true
  | _ => false

def ConnectionState.isConnected : ConnectionState → Bool
  | connected => true
  | _ => false

/-- What a client reports about its connection. -/
inductive ConnectionEvent where
  | connecting
  | connected
  | authenticated (data : Value) (frame : String)
  | unauthenticated (message : String) (data : Value) (frame : String)
  | disconnected (code : Option Nat) (reason : String) (intent : DisconnectIntent)
      (willReconnect : Bool)
  | reconnecting (attempt : Nat)
  | reconnectFailed (attempts : Nat)
  | heartbeatTimeout (elapsed : Nat)
  | messagesDropped (dropped total : Nat)
  | error (info : ErrorInfo)

namespace ConnectionEvent

/-- The events after which nothing follows: a `Disconnected` that announces no reconnect and
`ReconnectFailed`. -/
def isFinal : ConnectionEvent → Bool
  | disconnected _ _ _ willReconnect => !willReconnect
  | reconnectFailed _ => true
  | _ => false

/-- The events that report how a connection, or its reconnect, ended. -/
def reportsEnd : ConnectionEvent → Bool
  | disconnected _ _ _ _ => true
  | reconnectFailed _ => true
  | _ => false

theorem reportsEnd_of_isFinal {event : ConnectionEvent} (final : event.isFinal = true) :
    event.reportsEnd = true := by
  cases event <;> first | rfl | cases final

/-- The warning for a caller's `connect()` after it closed a connection `elapsed` after an automatic
reconnect restored it; `seconds` is `{:.1}` of the seconds in `elapsed`. -/
def reconnectConflict (seconds : String) : ConnectionEvent :=
  error
    { code := RECONNECT_CONFLICT
      sourceKind := .client
      message := "Your code closed the connection " ++ seconds ++
        "s after automatic reconnect restored it, then called connect() again. " ++
        "If that is your own reconnect code (disconnect() and connect() after a disconnect " ++
        "event), it and automatic reconnect keep triggering each other and log in again and " ++
        "again. Pick one: remove your own reconnect code, or turn automatic reconnect off " ++
        "(reconnect config enabled = false; Python: ReconnectConfig.disabled(), Node: " ++
        "reconnect: \x7b enabled: false \x7d). See MIGRATION.md, section 5." }

end ConnectionEvent

/-- One item of a client's stream. -/
inductive StreamItem where
  | message (msg : WebSocketMessage)
  | event (event : ConnectionEvent)

namespace StreamItem

def isMessage : StreamItem → Bool
  | message _ => true
  | event _ => false

def isFinal : StreamItem → Bool
  | message _ => false
  | event ev => ev.isFinal

def reportsEnd : StreamItem → Bool
  | message _ => false
  | event ev => ev.reportsEnd

/-- What an item says about the connection: a message and a `MessagesDropped` say nothing. -/
def lifecycle : StreamItem → Option ConnectionEvent
  | message _ => none
  | event (.messagesDropped _ _) => none
  | event ev => some ev

end StreamItem

/-- What a stream says about the connection, in order. -/
def lifecycle (items : List StreamItem) : List ConnectionEvent :=
  items.filterMap StreamItem.lifecycle

theorem lifecycle_append (first second : List StreamItem) :
    lifecycle (first ++ second) = lifecycle first ++ lifecycle second := List.filterMap_append

/-- How a connection ended, as far as the reconnect policy is concerned. -/
structure ConnectionClose where
  code : Option Nat := none
  lastErrorCode : Option Int := none
  deriving DecidableEq, Repr

/-- The `Disconnected` a peer Close frame should produce: none once the caller asked to shut down,
which reports the close itself. -/
def peerCloseDisconnect (code : Option Nat) (reason : Option String) (shutdownRequested : Bool) :
    Option (Option Nat × String × DisconnectIntent) :=
  if shutdownRequested then none
  else some (code, reason.getD "Server initiated close", .server)

end FugleMarketdata
