/-
**Inbound messages.** `core/src/models/subscription.rs`, the `WebSocketMessage` half.

`WebSocketMessage.parse` is JSON parsing and belongs to `serde_json`; a message here is what it
returns: the routed fields, the `data` payload as a JSON value, and the frame's text in `raw`.
-/

namespace FugleMarketdata

/-- A JSON value (`serde_json::Value`); a number is kept as its text. -/
inductive Value where
  | null
  | bool (b : Bool)
  | number (text : String)
  | string (s : String)
  | array (items : List Value)
  | object (fields : List (String × Value))

namespace Value

/-- `Value::get` with a key: the member of an object, nothing on any other value. -/
def get : Value → String → Option Value
  | object fields, key => fields.lookup key
  | _, _ => none

def asStr : Value → Option String
  | string s => some s
  | _ => none

def asBool : Value → Option Bool
  | bool b => some b
  | _ => none

def asArray : Value → Option (List Value)
  | array items => some items
  | _ => none

def asObject : Value → Option (List (String × Value))
  | object fields => some fields
  | _ => none

end Value

/-- An inbound frame, parsed. -/
structure WebSocketMessage where
  event : String
  data : Option Value := none
  channel : Option String := none
  symbol : Option String := none
  id : Option String := none
  code : Option Int := none
  message : Option String := none
  raw : String := ""

namespace WebSocketMessage

def isAuthenticated (msg : WebSocketMessage) : Bool := msg.event == "authenticated"

def isError (msg : WebSocketMessage) : Bool := msg.event == "error"

/-- `data.message`, falling back to a top-level `message`, of an error frame. -/
def errorMessage (msg : WebSocketMessage) : Option String :=
  if !msg.isError then none
  else ((msg.data.bind (·.get "message")).bind Value.asStr).or msg.message

/-- The server's error code, of an error frame that carries one. -/
def errorCode (msg : WebSocketMessage) : Option Int :=
  if !msg.isError then none else msg.code

end WebSocketMessage

end FugleMarketdata
