/-
**Client keys and server acks.** The keys of a subscription, the rows its frame stores, and the key under
which `handle_subscribed_event` records the id of a `subscribed` ack for one of these rows.

* `StockSubscription.keys`, `FutOptSubscription.keys` — the keys of the caller's side;
* `WebSocketMessage.parse` — the fields of a frame that are routed; a modifier at the top level is not;
* `AckFrame` — the acks that echo a row, in the documented shapes;
* `acks_agree_iff` — the keys are those of the rows, and an ack's id goes under its row's key exactly where
  the fields are inside `data` or the row has no modifier.
-/

import FugleMarketdata.Websocket.Protocol

namespace FugleMarketdata

/-! ### The keys of a subscription -/

def Symbols.toList : Symbols → List String
  | single symbol => [symbol]
  | many symbols => symbols

namespace StockSubscription

def formatKey (sub : StockSubscription) (symbol : String) : String :=
  if sub.intradayOddLot then sub.channel.asStr ++ ":" ++ symbol ++ ":oddlot"
  else sub.channel.asStr ++ ":" ++ symbol

/-- One local key per symbol. -/
def keys (sub : StockSubscription) : List String :=
  match sub.symbols with
  | .single symbol => [sub.formatKey symbol]
  | .many symbols => symbols.map sub.formatKey

theorem keys_eq (sub : StockSubscription) : sub.keys = (frameSubscribe sub).2.map SubscribeRequest.key := by
  obtain ⟨channel, symbols, oddLot⟩ := sub
  have rowKey (symbol : String) : formatKey ⟨channel, symbols, oddLot⟩ symbol =
      SubscribeRequest.key
        { channel := channel.asStr, symbol := some symbol
          intradayOddLot := if oddLot then some true else none } := by
    cases oddLot <;> rfl
  cases symbols with
  | single symbol =>
    show [formatKey _ symbol] = _
    rw [rowKey]
    cases oddLot <;> rfl
  | many symbols =>
    show symbols.map _ = _
    rw [funext rowKey]
    cases oddLot <;>
      simp [frameSubscribe, SubscribeRequest.withSymbols, SubscribeRequest.expand, Function.comp_def]

end StockSubscription

namespace FutOptSubscription

def formatKey (sub : FutOptSubscription) (symbol : String) : String :=
  if sub.afterHours then sub.channel.asStr ++ ":" ++ symbol ++ ":afterhours"
  else sub.channel.asStr ++ ":" ++ symbol

/-- One local key per symbol. -/
def keys (sub : FutOptSubscription) : List String :=
  match sub.symbols with
  | .single symbol => [sub.formatKey symbol]
  | .many symbols => symbols.map sub.formatKey

theorem keys_eq (sub : FutOptSubscription) :
    sub.keys = (frameSubscribeFutopt sub).2.map SubscribeRequest.key := by
  obtain ⟨channel, symbols, afterHours⟩ := sub
  have rowKey (symbol : String) : formatKey ⟨channel, symbols, afterHours⟩ symbol =
      SubscribeRequest.key
        { channel := channel.asStr, symbol := some symbol
          afterHours := if afterHours then some true else none } := by
    cases afterHours <;> rfl
  cases symbols with
  | single symbol =>
    show [formatKey _ symbol] = _
    rw [rowKey]
    cases afterHours <;> rfl
  | many symbols =>
    show symbols.map _ = _
    rw [funext rowKey]
    cases afterHours <;>
      simp [frameSubscribeFutopt, SubscribeRequest.withSymbols, SubscribeRequest.expand, Function.comp_def]

end FutOptSubscription

/-! ### Frames as they arrive -/

/-- An optional text field: absent and null are none, anything but text is an error. -/
def Value.optionalText : Option Value → Option (Option String)
  | none => some none
  | some .null => some none
  | some (.string text) => some (some text)
  | some _ => none

/-- A number as an `i32`; a negative zero is no integer. -/
def Value.asI32 : Value → Option Int
  | .number text => text.toInt?.filter fun n => text ≠ "-0" ∧ -2147483648 ≤ n ∧ n ≤ 2147483647
  | _ => none

/-- An optional `i32` field. -/
def Value.optionalCode : Option Value → Option (Option Int)
  | none => some none
  | some .null => some none
  | some value => value.asI32.map some

/-- `WebSocketMessage::parse` of a JSON object: the routed fields, none where one has the wrong type. -/
def WebSocketMessage.parse (fields : List (String × Value)) (text : String) : Option WebSocketMessage := do
  let frame := Value.object fields
  let event ← (frame.get "event").bind Value.asStr
  let channel ← Value.optionalText (frame.get "channel")
  let symbol ← Value.optionalText (frame.get "symbol")
  let id ← Value.optionalText (frame.get "id")
  let code ← Value.optionalCode (frame.get "code")
  let message ← Value.optionalText (frame.get "message")
  let data := match frame.get "data" with
    | some .null => none
    | data => data
  return { event, data, channel, symbol, id, code, message, raw := text }

/-- What a parsed frame has of its fields. -/
theorem WebSocketMessage.parse_some {fields : List (String × Value)} {text : String}
    {msg : WebSocketMessage} (parsed : WebSocketMessage.parse fields text = some msg) :
    (Value.object fields).get "event" = some (.string msg.event) ∧
      Value.optionalText ((Value.object fields).get "channel") = some msg.channel ∧
      Value.optionalText ((Value.object fields).get "symbol") = some msg.symbol ∧
      Value.optionalText ((Value.object fields).get "id") = some msg.id ∧
      (∀ data, data ≠ .null → (Value.object fields).get "data" = some data → msg.data = some data) ∧
      ((Value.object fields).get "data" = none → msg.data = none) := by
  simp only [parse, Option.bind_eq_bind, Option.bind_eq_some_iff] at parsed
  obtain ⟨event, ⟨value, has, isText⟩, channel, channelRead, symbol, symbolRead, id, idRead, code, -, message, -,
    made⟩ := parsed
  cases value with
  | string text =>
    cases isText
    cases made
    refine ⟨has, channelRead, symbolRead, idRead, fun data notNull at_ => ?_, fun absent => ?_⟩
    · simp only [at_]
      split
      · rename_i null
        exact absurd (Option.some.inj null) notNull
      · rfl
    · simp only [absent]
  | _ => cases isText

/-! ### Acks -/

/-- A modifier as an ack echoes it: present when true, present as false or absent otherwise. -/
def EchoesFlag (echoed : Option Value) (flag : Option Bool) : Prop :=
  if flag = some true then echoed = some (.bool true) else echoed = some (.bool false) ∨ echoed = none

/-- The fields of a value are those of a row, with an id. -/
structure Echoes (value : Value) (row : SubscribeRequest) (id : String) : Prop where
  id : value.get "id" = some (.string id)
  channel : value.get "channel" = some (.string row.channel)
  symbol : ∃ symbol, row.symbol = some symbol ∧ value.get "symbol" = some (.string symbol)
  afterHours : EchoesFlag (value.get "afterHours") row.afterHours
  oddLot : EchoesFlag (value.get "intradayOddLot") row.intradayOddLot

/-- The frame of a `subscribed` ack that echoes a row with an id, in the documented shapes, with the keys
and ids of the entries beside it. -/
inductive AckFrame (row : SubscribeRequest) (id : String) (fields : List (String × Value)) :
    List (String × String) → List (String × String) → Prop
  | topLevel (bare : (Value.object fields).get "data" = none) (echo : Echoes (.object fields) row id) :
      AckFrame row id fields [] []
  | dataObject {inner : List (String × Value)} (holds : (Value.object fields).get "data" = some (.object inner))
      (echo : Echoes (.object inner) row id) : AckFrame row id fields [] []
  | dataEntry {before after : List Value} {entry : Value}
      (holds : (Value.object fields).get "data" = some (.array (before ++ entry :: after)))
      (echo : Echoes entry row id) :
      AckFrame row id fields (before.filterMap batchEntry) (after.filterMap batchEntry)

/-- A row with a modifier. -/
def SubscribeRequest.modified (req : SubscribeRequest) : Bool :=
  req.afterHours == some true || req.intradayOddLot == some true

/-- The ack records the id under a key, in the turn of its entry, or hands it back where the key has a
pending cancel (`record_ack`), and does nothing else but for its other entries. -/
def RecordsUnder (msg : WebSocketMessage) (key id : String) (earlier later : List (String × String)) : Prop :=
  ∀ mgr : SubscriptionManager, handleSubscribedEvent mgr msg =
    (dedupeInPlace (recordAcks mgr (earlier ++ (key, id) :: later)).1,
      (recordAcks mgr (earlier ++ (key, id) :: later)).2)

theorem recordAcks_append (mgr : SubscriptionManager) (earlier later : List (String × String)) :
    recordAcks mgr (earlier ++ later) =
      ((recordAcks mgr earlier).1 ++ (recordAcks (recordAcks mgr earlier).2 later).1,
        (recordAcks (recordAcks mgr earlier).2 later).2) := by
  induction earlier generalizing mgr with
  | nil => rfl
  | cons entry rest ih =>
    obtain ⟨key, id⟩ := entry
    simp only [List.cons_append, recordAcks, ih, List.append_assoc]

/-- Entries of other keys leave a key's id alone. -/
theorem recordAcks_other {key : String} {later : List (String × String)} (mgr : SubscriptionManager)
    (others : ∀ entry ∈ later, entry.1 ≠ key) :
    (recordAcks mgr later).2.ids.byKey.get? key = mgr.ids.byKey.get? key := by
  induction later generalizing mgr with
  | nil => rfl
  | cons entry rest ih =>
    obtain ⟨other, id⟩ := entry
    have elsewhere : key ≠ other := fun same => others _ List.mem_cons_self same.symm
    refine (ih _ fun entry member => others entry (List.mem_cons_of_mem _ member)).trans ?_
    unfold SubscriptionManager.recordAck
    split
    · rfl
    · exact (mgr.get?_recordServerId other id key).trans (if_neg elsewhere)

/-- What recording under a key comes to: where the key has a pending cancel the id is handed back, and
otherwise it is the key's id, unless a later entry names the key again. -/
theorem RecordsUnder.id_kept {msg : WebSocketMessage} {key id : String}
    {earlier later : List (String × String)} (records : RecordsUnder msg key id earlier later)
    (mgr : SubscriptionManager) :
    (key ∈ (recordAcks mgr earlier).2.ids.pendingCancels → id ∈ (handleSubscribedEvent mgr msg).1) ∧
      (key ∉ (recordAcks mgr earlier).2.ids.pendingCancels → (∀ entry ∈ later, entry.1 ≠ key) →
        (handleSubscribedEvent mgr msg).2.ids.byKey.get? key = some id) := by
  rw [records mgr, recordAcks_append]
  refine ⟨fun pending => ?_, fun free others => ?_⟩
  · refine mem_dedupeInPlace.mpr (List.mem_append_right _ ?_)
    simp [recordAcks, SubscriptionManager.recordAck, pending]
  · refine (recordAcks_other _ others).trans ?_
    rw [SubscriptionManager.recordAck_recorded id free]
    exact (SubscriptionManager.get?_recordServerId _ key id key).trans (if_pos rfl)

theorem flag_of_echoes {value : Value} {name : String} {flag : Option Bool}
    (echo : EchoesFlag (value.get name) flag) : value.flag name = decide (flag = some true) := by
  unfold EchoesFlag at echo
  unfold Value.flag
  split at echo
  · rename_i on
    rw [echo, on]
    rfl
  · rename_i off
    rw [decide_eq_false off]
    rcases echo with false_ | absent
    · rw [false_]
      rfl
    · rw [absent]
      rfl

/-- The key an ack's fields make is that of the row they echo. -/
theorem buildSubKey_echoes {value : Value} {row : SubscribeRequest} {id symbol : String}
    (echo : Echoes value row id) (named : row.symbol = some symbol) :
    buildSubKey row.channel symbol (value.flag "afterHours") (value.flag "intradayOddLot") = row.key := by
  rw [flag_of_echoes echo.afterHours, flag_of_echoes echo.oddLot]
  simp only [buildSubKey, SubscribeRequest.key, named, decide_eq_true_eq]

theorem batchEntry_echoes {entry : Value} {row : SubscribeRequest} {id : String}
    (echo : Echoes entry row id) : batchEntry entry = some (row.key, id) := by
  obtain ⟨symbol, named, has⟩ := echo.symbol
  rw [← buildSubKey_echoes echo named]
  simp [batchEntry, echo.id, echo.channel, has, Value.asStr]

theorem singleEntry_echoes {msg : WebSocketMessage} {inner : List (String × Value)}
    {row : SubscribeRequest} {id : String} (data : msg.data = some (.object inner))
    (echo : Echoes (.object inner) row id) : singleEntry msg = some (row.key, id) := by
  obtain ⟨symbol, named, has⟩ := echo.symbol
  rw [← buildSubKey_echoes echo named]
  simp [singleEntry, data, Value.asObject, echo.id, echo.channel, has, Value.asStr]

/-- At the top level a modifier is not read. -/
theorem singleEntry_topLevel {msg : WebSocketMessage} {id channel symbol : String}
    (bare : msg.data = none) (hasId : msg.id = some id) (hasChannel : msg.channel = some channel)
    (hasSymbol : msg.symbol = some symbol) :
    singleEntry msg = some (channel ++ ":" ++ symbol, id) := by
  simp [singleEntry, bare, hasId, hasChannel, hasSymbol, buildSubKey]

/-- Recording one entry, without duplicates to drop. -/
theorem dedupe_recordAcks_singleton (mgr : SubscriptionManager) (entry : String × String) :
    dedupeInPlace (recordAcks mgr [entry]).1 = (recordAcks mgr [entry]).1 := by
  show dedupeInPlace ((mgr.recordAck _ _).1.toList ++ []) = (mgr.recordAck _ _).1.toList ++ []
  cases (mgr.recordAck entry.1 entry.2).1 <;> rfl

theorem recordsUnder_single {msg : WebSocketMessage} {key id : String} (event : msg.event = "subscribed")
    (noArray : msg.data.bind Value.asArray = none) (read : singleEntry msg = some (key, id)) :
    RecordsUnder msg key id [] [] := by
  intro mgr
  rw [List.nil_append, dedupe_recordAcks_singleton]
  simp only [handleSubscribedEvent, event, ne_eq, not_true, if_false, noArray, read, Option.toList_some]

/-- Only one key is the one an ack records its id under. -/
theorem recordsUnder_inj {msg : WebSocketMessage} {key other id : String}
    (records : RecordsUnder msg key id [] []) (otherwise : RecordsUnder msg other id [] []) : key = other := by
  have managers := congrArg Prod.snd ((records {}).symm.trans (otherwise {}))
  have entries := congrArg (fun mgr : SubscriptionManager => mgr.ids.byKey.entries) managers
  have same : [(key, id)] = [(other, id)] := entries
  exact congrArg Prod.fst (List.cons.inj same).1

theorem key_of_unmodified {row : SubscribeRequest} {symbol : String} (named : row.symbol = some symbol)
    (regular : row.modified = false) : row.key = row.channel ++ ":" ++ symbol := by
  simp only [SubscribeRequest.modified, Bool.or_eq_false_iff, beq_eq_false_iff_ne] at regular
  simp only [SubscribeRequest.key, named, if_neg regular.1, if_neg regular.2]

theorem key_of_modified {row : SubscribeRequest} {symbol : String} (named : row.symbol = some symbol)
    (modified : row.modified = true) : row.key ≠ row.channel ++ ":" ++ symbol := by
  have longer (suffix : String) (some_ : 0 < suffix.length) :
      row.channel ++ ":" ++ symbol ++ suffix ≠ row.channel ++ ":" ++ symbol := by
    intro same
    have lengths := congrArg String.length same
    rw [String.length_append] at lengths
    omega
  simp only [SubscribeRequest.key, named]
  split
  · exact longer ":afterhours" (by decide)
  · rename_i noHours
    split
    · exact longer ":oddlot" (by decide)
    · rename_i noLot
      simp [SubscribeRequest.modified, noHours, noLot] at modified

/-- An ack's id goes under its row's key, unless its fields are at the top level and the row has a
modifier. -/
theorem recordsUnder_iff {row : SubscribeRequest} {id text : String} {fields : List (String × Value)}
    {earlier later : List (String × String)} {msg : WebSocketMessage}
    (ack : AckFrame row id fields earlier later)
    (event : (Value.object fields).get "event" = some (.string "subscribed"))
    (parsed : WebSocketMessage.parse fields text = some msg) :
    RecordsUnder msg row.key id earlier later ↔
      ((Value.object fields).get "data").isSome = true ∨ row.modified = false := by
  obtain ⟨hasEvent, hasChannel, hasSymbol, hasId, hasData, bareData⟩ := WebSocketMessage.parse_some parsed
  have subscribed : msg.event = "subscribed" := by
    rw [event] at hasEvent
    exact (Value.string.inj (Option.some.inj hasEvent)).symm
  cases ack with
  | topLevel bare echo =>
    obtain ⟨symbol, named, has⟩ := echo.symbol
    rw [echo.id] at hasId
    rw [echo.channel] at hasChannel
    rw [has] at hasSymbol
    have read := singleEntry_topLevel (bareData bare) (Option.some.inj hasId).symm
      (Option.some.inj hasChannel).symm (Option.some.inj hasSymbol).symm
    have plain := recordsUnder_single subscribed (by rw [bareData bare]; rfl) read
    rw [bare]
    constructor
    · intro records
      by_contra neither
      have modified : row.modified = true := by
        simpa using neither
      exact key_of_modified named modified (recordsUnder_inj records plain)
    · rintro (data | regular)
      · cases data
      · rw [key_of_unmodified named regular]
        exact plain
  | @dataObject inner holds echo =>
    have data := hasData _ (by simp) holds
    refine iff_of_true ?_ (.inl (by rw [holds]; rfl))
    exact recordsUnder_single subscribed (by rw [data]; rfl) (singleEntry_echoes data echo)
  | @dataEntry before after entry holds echo =>
    have data := hasData _ (by simp) holds
    refine iff_of_true (fun mgr => ?_) (.inl (by rw [holds]; rfl))
    have entries : (before ++ entry :: after).filterMap batchEntry =
        before.filterMap batchEntry ++ (row.key, id) :: after.filterMap batchEntry := by
      rw [List.filterMap_append, List.filterMap_cons_some (batchEntry_echoes echo)]
    rw [← entries]
    simp only [handleSubscribedEvent, subscribed, ne_eq, not_true, if_false, data, Option.bind_some,
      Value.asArray]

/-- The keys are those of the rows, and the ack of each row, in any documented shape, has its id recorded
under the row's key, exactly where its fields are inside `data` or the row has no modifier. -/
def AcksAgree (keys : List String) (rows : List SubscribeRequest) : Prop :=
  keys = rows.map SubscribeRequest.key ∧
    ∀ row ∈ rows, ∀ id text fields earlier later msg, AckFrame row id fields earlier later →
      (Value.object fields).get "event" = some (.string "subscribed") →
      WebSocketMessage.parse fields text = some msg →
        (RecordsUnder msg row.key id earlier later ↔
          ((Value.object fields).get "data").isSome = true ∨ row.modified = false)

/-- **Client keys and server acks agree**, for every subscription, but for acks with their fields at the top
level, where a modifier is lost. -/
theorem acks_agree_iff (stock : StockSubscription) (futOpt : FutOptSubscription) :
    AcksAgree stock.keys (frameSubscribe stock).2 ∧
      AcksAgree futOpt.keys (frameSubscribeFutopt futOpt).2 := by
  refine ⟨⟨stock.keys_eq, ?_⟩, futOpt.keys_eq, ?_⟩
  · exact fun row _ id text fields earlier later msg => recordsUnder_iff
  · exact fun row _ id text fields earlier later msg => recordsUnder_iff

/-- The after-hours trades of a contract. -/
def afterHoursTrades : FutOptSubscription where
  channel := .trades
  symbols := .single "TXFC4"
  afterHours := true

/-- Their ack, its fields at the top level. -/
def afterHoursAck : List (String × Value) :=
  [("event", .string "subscribed"), ("id", .string "sub-a"), ("channel", .string "trades"),
    ("symbol", .string "TXFC4"), ("afterHours", .bool true)]

/-- The same ack, its fields inside `data`. -/
def afterHoursDataAck : List (String × Value) :=
  [("event", .string "subscribed"),
    ("data", .object [("id", .string "sub-a"), ("channel", .string "trades"),
      ("symbol", .string "TXFC4"), ("afterHours", .bool true)])]

theorem acks_agree_iff_insideData : ∃ msg, WebSocketMessage.parse afterHoursDataAck "" = some msg ∧
    RecordsUnder msg "trades:TXFC4:afterhours" "sub-a" [] [] ∧
      (handleSubscribedEvent {} msg).2.ids.byKey.get? "trades:TXFC4:afterhours" = some "sub-a" := by
  have echo : Echoes (.object [("id", .string "sub-a"), ("channel", .string "trades"),
      ("symbol", .string "TXFC4"), ("afterHours", .bool true)])
      { channel := "trades", symbol := some "TXFC4", afterHours := some true } "sub-a" :=
    ⟨rfl, rfl, ⟨"TXFC4", rfl, rfl⟩, rfl, .inr rfl⟩
  have agrees := (acks_agree_iff { channel := .trades, symbols := .single "2330" } afterHoursTrades).2.2
  have records := (agrees _ List.mem_cons_self "sub-a" "" afterHoursDataAck [] [] _ (.dataObject rfl echo)
    rfl rfl).mpr (.inl rfl)
  exact ⟨_, rfl, records, (records.id_kept {}).2 (by decide) nofun⟩

/-- **An after-hours ack at the top level goes under the regular session's key.** -/
theorem topLevel_ack_loses_session :
    ¬ ∀ (sub : FutOptSubscription), ∀ row ∈ (frameSubscribeFutopt sub).2,
      ∀ id text fields earlier later msg, AckFrame row id fields earlier later →
        (Value.object fields).get "event" = some (.string "subscribed") →
        WebSocketMessage.parse fields text = some msg → RecordsUnder msg row.key id earlier later := by
  intro always
  have echo : Echoes (.object afterHoursAck)
      { channel := "trades", symbol := some "TXFC4", afterHours := some true } "sub-a" :=
    ⟨rfl, rfl, ⟨"TXFC4", rfl, rfl⟩, rfl, .inr rfl⟩
  have records := always afterHoursTrades _ List.mem_cons_self "sub-a" "" afterHoursAck [] [] _
    (.topLevel rfl echo) rfl rfl
  have entries := congrArg (fun result => result.2.ids.byKey.keys) (records {})
  exact absurd entries (by decide)

end FugleMarketdata
