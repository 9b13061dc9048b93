/-
**Waiting for the login's verdict.** `await_auth_response` of `sync/owner_thread.rs` and
`aio/reconnect.rs`, with what `protocol.rs` makes of the frames read.

What arrives is a list of frames, each with the time since the one before. A blocking read with a timeout
returns the next frame if it arrives within it; `timeout` around the async wait lets what arrives within
it be handled. Times are numbers of nanoseconds.

* `SyncLogin.awaitAuthResponse`, `AioLogin.awaitAuthResponse` — the two waits;
* `logins_agree_iff` — they end alike, in time, exactly where the verdict does not come between the sync
  client's deadline and the end of a read begun before it;
* `lateVerdict_accepted` — a verdict the sync client takes after the timeout.
-/

import FugleMarketdata.Lib.TimedWait
import FugleMarketdata.Websocket.ReconnectLoop

namespace FugleMarketdata

open TimedWaits

/-! ### Errors of a login -/

/-- The kinds of `WebSocketErrorKind` a read can fail with. -/
inductive WebSocketErrorKind where
  | protocol | capacity | utf8 | tls | io | other
  deriving DecidableEq, Repr

namespace WebSocketErrorKind

/-- `{:?}`. -/
def debug : WebSocketErrorKind → String
  | protocol => "Protocol"
  | capacity => "Capacity"
  | utf8 => "Utf8"
  | tls => "Tls"
  | io => "Io"
  | other => "Other"

/-- What `From<tungstenite::Error>` puts before the error's own text. -/
def describes : WebSocketErrorKind → String
  | protocol => "WebSocket protocol violation: "
  | capacity => "WebSocket capacity exceeded: "
  | utf8 => "WebSocket UTF-8 decode failure: "
  | tls => "TLS/certificate error: "
  | io => "WebSocket transport error: "
  | other => "WebSocket error: "

def sourceKind : WebSocketErrorKind → ErrorKind
  | tls => .auth
  | io => .network
  | _ => .protocol

end WebSocketErrorKind

/-- An error of a read: its kind and its text. A read that timed out is not one. -/
structure TransportError where
  kind : WebSocketErrorKind
  text : String
  deriving DecidableEq, Repr

/-- The errors a login fails with. -/
inductive LoginError where
  | connectionError (msg : String)
  | connectionLimit (msg : String)
  | timeoutError (operation : String)
  | webSocketError (kind : WebSocketErrorKind) (msg : String)
  deriving DecidableEq, Repr

namespace LoginError

/-- `MarketDataError::from` on a read's error. -/
def ofTransport (error : TransportError) : LoginError :=
  webSocketError error.kind (error.kind.describes ++ error.text)

/-- `MarketDataError::info`. -/
def info : LoginError → ErrorInfo
  | connectionError msg =>
    { code := 2001, sourceKind := .network, message := "Connection error: " ++ msg }
  | connectionLimit msg =>
    { code := 2012, sourceKind := .network, message := "Connection limit reached: " ++ msg }
  | timeoutError operation =>
    { code := 3001, sourceKind := .network, message := "Timeout error: " ++ operation }
  | webSocketError kind msg =>
    { code := 3002
      sourceKind := kind.sourceKind
      message := "WebSocket error (" ++ kind.debug ++ "): " ++ msg }

end LoginError

/-! ### Verdicts -/

/-- The server's auth-phase `error` code for an account at its connection limit, and for any failed
validation. -/
def CONNECTION_LIMIT_ERROR_CODE : Int := 1003

/-- The Close code of a connection over the limit. -/
def CONNECTION_LIMIT_CLOSE_CODE : Nat := 1013

/-- The server's wording for the connection limit. -/
def CONNECTION_LIMIT_MESSAGE : String := "Maximum number of connections reached"

/-- A Close frame: its code, as tungstenite reports it, and its reason. -/
structure CloseFrame where
  code : Nat
  reason : String
  deriving DecidableEq, Repr

/-- `char::is_control`. -/
def isControl (c : Char) : Bool := c.val < 0x20 || (0x7f ≤ c.val && c.val ≤ 0x9f)

/-- The error for a stream that closed before the handshake had a verdict. -/
def closedDuringAuth (frame : Option CloseFrame) : LoginError :=
  let msg := match frame with
    | some frame =>
      if frame.reason = "" then
        "Stream closed during authentication (close " ++ toString frame.code ++ ")"
      else
        "Stream closed during authentication (close " ++ toString frame.code ++ ": " ++
          frame.reason.map (fun c => if isControl c then ' ' else c) ++ ")"
    | none => "Stream closed during authentication"
  let atLimit := frame.any fun frame => frame.code == CONNECTION_LIMIT_CLOSE_CODE ||
    (frame.code == 1001 && frame.reason == CONNECTION_LIMIT_MESSAGE)
  if atLimit then .connectionLimit msg else .connectionError msg

/-- What a frame says about the login. -/
inductive AuthOutcome where
  | authenticated (data : Value)
  | rejected (message : String) (data : Value)
  | failed (error : LoginError)
  | pending

/-- Classify a frame received during the handshake. -/
def classifyAuthResponse (msg : WebSocketMessage) : AuthOutcome :=
  let data := msg.data.getD .null
  if msg.isAuthenticated then .authenticated data
  else if !msg.isError then .pending
  else
    let message := msg.errorMessage.getD "Unknown error"
    match msg.errorCode with
    | some code =>
      if code = AUTH_REJECTED_CODE then .rejected message data
      else if code = CONNECTION_LIMIT_ERROR_CODE ∧ message = CONNECTION_LIMIT_MESSAGE then
        .failed (.connectionLimit ("Authentication failed (server error " ++
          toString CONNECTION_LIMIT_ERROR_CODE ++ "): " ++ message))
      else
        .failed (.connectionError ("Authentication failed (server error " ++ toString code ++ "): " ++
          message))
    | none => .failed (.connectionError ("Authentication failed: " ++ message))

/-! ### The waits -/

/-- What arrives: a frame, the end of the stream, or an error of the transport. -/
inductive Inbound where
  | text (text : String)
  | binary (data : List UInt8)
  | ping (payload : List UInt8)
  | pong (payload : List UInt8)
  | close (frame : Option CloseFrame)
  | ended
  | transportError (error : TransportError)

/-- What is taken from outside: `WebSocketMessage::parse` and the decoding of UTF-8, with what their
errors are reported as, and the text of tungstenite's `ConnectionClosed`, which a blocking read returns
at the end of the stream. -/
structure Wire where
  parse : String → Except ErrorInfo WebSocketMessage
  utf8 : List UInt8 → Except ErrorInfo String
  closedText : String

/-- `parse_text_frame`. -/
def Wire.parseTextFrame (wire : Wire) (text : String) : Except ErrorInfo WebSocketMessage :=
  wire.parse text

/-- `parse_binary_frame`. -/
def Wire.parseBinaryFrame (wire : Wire) (data : List UInt8) : Except ErrorInfo WebSocketMessage :=
  match wire.utf8 data with
  | .ok text => wire.parse text
  | .error info => .error info

/-- What decided a wait. -/
inductive LoginKind where
  | authenticated
  | rejected (message : String) (data : Value)
  | closed
  | failedBy (frame : WebSocketMessage)

/-- The end of a wait: decided at a time since it began, or timed out. -/
inductive LoginEnd where
  | decided (kind : LoginKind) (handshake : AuthHandshake) (arrival : Nat)
  | timedOut

/-- The frames returned with the outcome. -/
def AuthHandshake.frames : AuthHandshake → List WebSocketMessage
  | authenticated _ frames => frames
  | rejected _ _ frames => frames
  | failed _ => []

namespace LoginEnd

/-- What the function returns. -/
def handshake : LoginEnd → AuthHandshake
  | decided _ handshake _ => handshake
  | timedOut => .failed (LoginError.timeoutError "WebSocket authentication").info

/-- The kind of outcome, none for a timeout, and the frames returned. -/
def summary (login : LoginEnd) : Option LoginKind × List WebSocketMessage :=
  match login with
  | decided kind handshake _ => (some kind, handshake.frames)
  | timedOut => (none, login.handshake.frames)

/-- When what decided it arrived. -/
def arrival : LoginEnd → Option Nat
  | decided _ _ arrival => some arrival
  | timedOut => none

def ofWait : Option ((LoginKind × AuthHandshake) × Nat) → LoginEnd
  | some ((kind, handshake), arrival) => decided kind handshake arrival
  | none => timedOut

end LoginEnd

/-- A text frame: the frames read up to it, and what it decides. -/
def onText (wire : Wire) (frames : List WebSocketMessage) (text : String) :
    List WebSocketMessage × Option (LoginKind × AuthHandshake) :=
  match wire.parseTextFrame text with
  | .error _ => (frames, none)
  | .ok msg =>
    let frames := frames ++ [msg]
    match classifyAuthResponse msg with
    | .authenticated data => (frames, some (.authenticated, .authenticated data frames))
    | .rejected message data => (frames, some (.rejected message data, .rejected message data frames))
    | .failed error => (frames, some (.failedBy msg, .failed error.info))
    | .pending => (frames, none)

namespace SyncLogin

/-- What a blocking read returned. -/
def onFrame (wire : Wire) (frames : List WebSocketMessage) :
    Inbound → List WebSocketMessage × Option (LoginKind × AuthHandshake)
  | .text text => onText wire frames text
  | .close frame => (frames, some (.closed, .failed (closedDuringAuth frame).info))
  | .binary _ => (frames, none)
  | .ping _ => (frames, none)
  | .pong _ => (frames, none)
  | .ended => (frames, some (.closed,
      .failed (LoginError.connectionError ("Auth read error: " ++ wire.closedText)).info))
  | .transportError error => (frames, some (.closed,
      .failed (LoginError.connectionError ("Auth read error: " ++ error.text)).info))

/-- The sync wait, `elapsed` after it began, with the frames read so far: the deadline is checked before
each read, and each read takes up to `authTimeout`. -/
def awaitAuthResponse (wire : Wire) (authTimeout elapsed : Nat) (frames : List WebSocketMessage) :
    List (Nat × Inbound) → LoginEnd
  | [] => .timedOut
  | (delay, inbound) :: rest =>
    if elapsed ≥ authTimeout then .timedOut
    -- The read gives up `authTimeout` from now, past the deadline that is checked next.
    else if delay > authTimeout then .timedOut
    else match onFrame wire frames inbound with
      | (_, some (kind, handshake)) => .decided kind handshake (elapsed + delay)
      | (frames, none) => awaitAuthResponse wire authTimeout (elapsed + delay) frames rest

end SyncLogin

namespace AioLogin

/-- What the stream yielded. -/
def onFrame (wire : Wire) (frames : List WebSocketMessage) :
    Inbound → List WebSocketMessage × Option (LoginKind × AuthHandshake)
  | .text text => onText wire frames text
  | .close frame => (frames, some (.closed, .failed (closedDuringAuth frame).info))
  | .transportError error => (frames, some (.closed, .failed (LoginError.ofTransport error).info))
  | .ended => (frames, some (.closed, .failed (closedDuringAuth none).info))
  | .binary _ => (frames, none)
  | .ping _ => (frames, none)
  | .pong _ => (frames, none)

/-- The async wait, `elapsed` after it began, with the frames read so far: one timeout around it all,
which looks at what has arrived before it looks at the clock. -/
def awaitAuthResponse (wire : Wire) (authTimeout elapsed : Nat) (frames : List WebSocketMessage) :
    List (Nat × Inbound) → LoginEnd
  | [] => .timedOut
  | (delay, inbound) :: rest =>
    if elapsed + delay > authTimeout then .timedOut
    else match onFrame wire frames inbound with
      | (_, some (kind, handshake)) => .decided kind handshake (elapsed + delay)
      | (frames, none) => awaitAuthResponse wire authTimeout (elapsed + delay) frames rest

end AioLogin

/-! ### The waits as waits -/

variable (wire : Wire)

theorem SyncLogin.awaitAuthResponse_eq (authTimeout elapsed : Nat) (frames : List WebSocketMessage)
    (input : List (Nat × Inbound)) :
    SyncLogin.awaitAuthResponse wire authTimeout elapsed frames input =
      .ofWait (perRead (SyncLogin.onFrame wire) authTimeout elapsed frames input) := by
  induction input generalizing elapsed frames with
  | nil => rfl
  | cons entry rest ih =>
    obtain ⟨delay, inbound⟩ := entry
    unfold SyncLogin.awaitAuthResponse perRead
    by_cases late : elapsed ≥ authTimeout
    · rw [if_pos late, if_pos late]
      rfl
    by_cases slow : delay > authTimeout
    · rw [if_neg late, if_pos slow, if_neg late, if_pos slow]
      rfl
    rw [if_neg late, if_neg slow, if_neg late, if_neg slow]
    rcases SyncLogin.onFrame wire frames inbound with ⟨read, _ | ⟨kind, handshake⟩⟩
    · exact ih (elapsed + delay) read
    · rfl

theorem AioLogin.awaitAuthResponse_eq (authTimeout elapsed : Nat) (frames : List WebSocketMessage)
    (input : List (Nat × Inbound)) :
    AioLogin.awaitAuthResponse wire authTimeout elapsed frames input =
      .ofWait (whole (AioLogin.onFrame wire) authTimeout elapsed frames input) := by
  induction input generalizing elapsed frames with
  | nil => rfl
  | cons entry rest ih =>
    obtain ⟨delay, inbound⟩ := entry
    unfold AioLogin.awaitAuthResponse whole
    by_cases late : elapsed + delay > authTimeout
    · rw [if_pos late, if_pos late]
      rfl
    rw [if_neg late, if_neg late]
    rcases AioLogin.onFrame wire frames inbound with ⟨read, _ | ⟨kind, handshake⟩⟩
    · exact ih (elapsed + delay) read
    · rfl

/-- The kind of outcome and the frames returned with it. -/
def outcomeSummary (outcome : LoginKind × AuthHandshake) : LoginKind × List WebSocketMessage :=
  (outcome.1, outcome.2.frames)

/-- The two clients read a frame alike, the wording of transport errors aside. -/
theorem onFrame_agree (frames : List WebSocketMessage) (inbound : Inbound) :
    (SyncLogin.onFrame wire frames inbound).1 = (AioLogin.onFrame wire frames inbound).1 ∧
      (SyncLogin.onFrame wire frames inbound).2.map outcomeSummary =
        (AioLogin.onFrame wire frames inbound).2.map outcomeSummary := by
  cases inbound <;> exact ⟨rfl, rfl⟩

/-- The same frame decides both waits, and alike. -/
theorem first_agree (frames : List WebSocketMessage) (input : List (Nat × Inbound)) :
    (first (SyncLogin.onFrame wire) frames input).map
        (fun (lead, delay, outcome) => (lead, delay, outcomeSummary outcome)) =
      (first (AioLogin.onFrame wire) frames input).map
        fun (lead, delay, outcome) => (lead, delay, outcomeSummary outcome) :=
  first_project _ outcomeSummary outcomeSummary (fun frames inbound => (onFrame_agree wire frames inbound).1)
    (fun frames inbound => (onFrame_agree wire frames inbound).2) frames input

/-- Both logins end in the same kind of outcome with the same frames, and neither takes a verdict that
arrived later than the timeout. -/
def LoginsAgree (authTimeout : Nat) (input : List (Nat × Inbound)) : Prop :=
  let sync := SyncLogin.awaitAuthResponse wire authTimeout 0 [] input
  let aio := AioLogin.awaitAuthResponse wire authTimeout 0 [] input
  sync.summary = aio.summary ∧ (∀ arrival ∈ sync.arrival, arrival ≤ authTimeout) ∧
    ∀ arrival ∈ aio.arrival, arrival ≤ authTimeout

/-- **The logins agree exactly where the waits do.** They end alike and in time unless the frame that
decides comes within the timeout of the frame before it, and that one before the deadline, but itself
after it; or both come with the deadline. -/
theorem logins_agree_iff (authTimeout : Nat) (input : List (Nat × Inbound)) :
    LoginsAgree wire authTimeout input ↔ Agreed (SyncLogin.onFrame wire) authTimeout [] input := by
  have same := first_agree wire [] input
  unfold LoginsAgree Agreed
  rw [SyncLogin.awaitAuthResponse_eq, AioLogin.awaitAuthResponse_eq, perRead_eq, whole_eq]
  cases sync : first (SyncLogin.onFrame wire) [] input with
  | none =>
    rw [sync] at same
    have aio : first (AioLogin.onFrame wire) [] input = none :=
      Option.map_eq_none_iff.mp same.symm
    simp [aio, LoginEnd.ofWait, LoginEnd.arrival]
  | some found =>
    obtain ⟨_, _, _, handshake⟩ := found
    rw [sync] at same
    obtain ⟨⟨lead, delay, kind, handshakeAio⟩, aio, alike⟩ := Option.map_eq_some_iff.mp same.symm
    simp only [outcomeSummary, Prod.mk.injEq] at alike
    obtain ⟨rfl, rfl, rfl, frames⟩ := alike
    rw [aio]
    simp only [Option.bind_some, Nat.zero_add, Option.some.injEq, Prod.mk.injEq]
    by_cases inTime : lead < authTimeout ∧ delay ≤ authTimeout <;>
      by_cases whole : lead + delay ≤ authTimeout
    · rw [if_pos inTime, if_pos whole]
      simp [LoginEnd.ofWait, LoginEnd.summary, LoginEnd.arrival, frames]
      omega
    · rw [if_pos inTime, if_neg whole]
      simp [LoginEnd.ofWait, LoginEnd.summary, LoginEnd.arrival]
      omega
    · rw [if_neg inTime, if_pos whole]
      simp [LoginEnd.ofWait, LoginEnd.summary, LoginEnd.arrival]
      omega
    · rw [if_neg inTime, if_neg whole]
      simp [LoginEnd.ofWait, LoginEnd.summary, LoginEnd.arrival]
      omega

/-- The text of a frame that is only its event. -/
def eventText (event : String) : String := "\x7b\"event\":\"" ++ event ++ "\"\x7d"

/-- What parsing makes of two such frames. -/
def eventWire : Wire where
  parse := fun text =>
    if text = eventText "heartbeat" then .ok { event := "heartbeat", raw := text }
    else if text = eventText "authenticated" then .ok { event := "authenticated", raw := text }
    else .error { code := 1002, sourceKind := .client, message := "Deserialization failed" }
  utf8 := fun _ =>
    .error { code := 1002, sourceKind := .client, message := "Deserialization failed" }
  closedText := "Connection closed normally"

/-- A heartbeat 9 s into a login with a timeout of 10 s, and the verdict 5 s later. -/
def lateVerdict : List (Nat × Inbound) :=
  [(9000000000, .text (eventText "heartbeat")), (5000000000, .text (eventText "authenticated"))]

/-- **The sync login takes a verdict after the timeout.** The async one has timed out by then. -/
theorem lateVerdict_accepted : ¬ LoginsAgree eventWire 10000000000 lateVerdict := by
  rintro ⟨-, sync, -⟩
  have late : 14000000000 ≤ 10000000000 := sync 14000000000 rfl
  omega

end FugleMarketdata
