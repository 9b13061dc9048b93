/-
**Request URLs.** `core/src/rest/symbol_path.rs` and `RestClient::endpoint_url` of
`core/src/rest/client.rs`.

The path is escaped as `encodeURIComponent` does, the query by `form_urlencoded`. Both encoders are crates:
they are parameters (`Encoders`), and what their documentation promises is `Documented`.

* `readAppended` — how the other side takes the path and the query apart;
* `endpointUrl_readBack` — it finds the segments and the pairs that were put in, so no two requests share a
  URL.
-/

import FugleMarketdata.Lib.Cutting
import FugleMarketdata.Lib.Escaping

namespace FugleMarketdata.Rest

open Cutting Escaping

/-! ### The encoders -/

/-- `percent_encoding::AsciiSet`: the ASCII bytes to escape. -/
structure AsciiSet where
  contains : UInt8 → Bool

def AsciiSet.remove (set : AsciiSet) (b : UInt8) : AsciiSet where
  contains other := set.contains other && other != b

def isAlphanumeric (b : UInt8) : Bool :=
  ('0'.toUInt8 ≤ b && b ≤ '9'.toUInt8) || ('A'.toUInt8 ≤ b && b ≤ 'Z'.toUInt8) ||
    ('a'.toUInt8 ≤ b && b ≤ 'z'.toUInt8)

/-- Every ASCII byte that is no letter and no digit. -/
def NON_ALPHANUMERIC : AsciiSet where
  contains b := b < 128 && !isAlphanumeric b

/-- What `encodeURIComponent` escapes. -/
def ENCODE_URI_COMPONENT : AsciiSet :=
  NON_ALPHANUMERIC.remove '-'.toUInt8
    |>.remove '_'.toUInt8
    |>.remove '.'.toUInt8
    |>.remove '!'.toUInt8
    |>.remove '~'.toUInt8
    |>.remove '*'.toUInt8
    |>.remove '\''.toUInt8
    |>.remove '('.toUInt8
    |>.remove ')'.toUInt8

/-- The two crates: `utf8_percent_encode`, and a `form_urlencoded::Serializer` from an empty string that
takes the pairs. -/
structure Encoders where
  utf8PercentEncode : String → AsciiSet → String
  formUrlencoded : List (String × String) → String

/-- The bytes `form_urlencoded` leaves as they are. -/
def formKept (b : UInt8) : Bool :=
  isAlphanumeric b || b == '*'.toUInt8 || b == '-'.toUInt8 || b == '.'.toUInt8 || b == '_'.toUInt8

/-- A key or a value as `form_urlencoded` writes it. -/
def formText (text : String) : List Char :=
  (utf8 text).flatMap fun b =>
    if b = ' '.toUInt8 then ['+'] else if formKept b then [asciiChar b] else escapeByte b

/-- What the crates promise. -/
structure Encoders.Documented (encoders : Encoders) : Prop where
  percent : ∀ text set, (encoders.utf8PercentEncode text set).toList =
    write (fun b => !(set.contains b || decide (128 ≤ b))) (utf8 text)
  form : ∀ pairs, (encoders.formUrlencoded pairs).toList =
    ['&'].intercalate (pairs.map fun pair => formText pair.1 ++ '=' :: formText pair.2)

/-! ### The source's functions -/

section Source

variable (encoders : Encoders)

def encodeSymbol (symbol : String) : String := encoders.utf8PercentEncode symbol ENCODE_URI_COMPONENT

/-- `{base}/{segment}/...?{key}={value}&...`, every part encoded. -/
def endpointUrl (baseUrl : String) (path : List String) (query : List (String × String)) : String :=
  let url := path.foldl (fun url segment => url ++ "/" ++ encodeSymbol encoders segment) baseUrl
  if query.isEmpty then url else url ++ "?" ++ encoders.formUrlencoded query

end Source

/-! ### Reading it back -/

/-- A part, its escapes undone. -/
def decodePart (part : List Char) : Option String := ofUtf8? (percentDecode part)

/-- A part of the query: a `+` is a space. -/
def decodeQueryPart (part : List Char) : Option String :=
  decodePart (part.map fun c => if c = '+' then ' ' else c)

def readPair (pair : List Char) : Option (String × String) := do
  let (key, value) ← splitOnce '=' pair
  return (← decodeQueryPart key, ← decodeQueryPart value)

/-- What is behind the base: the query starts at the first `?`, the path is cut at `/`, the query at `&`,
each pair at its first `=`. -/
def readAppended (appended : List Char) : Option (List String × List (String × String)) := do
  let (path, query) := match splitOnce '?' appended with
    | some (path, query) => (path, query.splitOn '&')
    | none => (appended, [])
  let segments ← (path.splitOn '/').tail.mapM decodePart
  let pairs ← query.mapM readPair
  return (segments, pairs)

/-! ### Segments -/

/-- The bytes a segment keeps. -/
def segmentKept (b : UInt8) : Bool := !(ENCODE_URI_COMPONENT.contains b || decide (128 ≤ b))

theorem segmentKept_ascii (b : UInt8) (stays : segmentKept b = true) : b.toNat < 128 := by
  have small : ¬ 128 ≤ b := by
    intro large
    simp [segmentKept, large] at stays
  simpa [UInt8.le_iff_toNat_le] using small

/-- A segment as it stands in the URL. -/
def segmentText (segment : String) : List Char := write segmentKept (utf8 segment)

theorem decodePart_segmentText (segment : String) : decodePart (segmentText segment) = some segment := by
  rw [decodePart, segmentText, percentDecode_write segmentKept_ascii (by decide), ofUtf8?_utf8]

theorem slash_not_mem_segmentText (segment : String) : '/' ∉ segmentText segment :=
  not_mem_write segmentKept_ascii (by decide) (by decide) _

theorem mark_not_mem_segmentText (segment : String) : '?' ∉ segmentText segment :=
  not_mem_write segmentKept_ascii (by decide) (by decide) _

/-! ### Keys and values -/

/-- The bytes a key or a value keeps, the space among them. -/
def queryKept (b : UInt8) : Bool := b == ' '.toUInt8 || formKept b

theorem queryKept_ascii (b : UInt8) (stays : queryKept b = true) : b.toNat < 128 := by
  simp only [queryKept, formKept, isAlphanumeric, Bool.or_eq_true, Bool.and_eq_true, beq_iff_eq,
    decide_eq_true_eq, UInt8.le_iff_toNat_le] at stays
  rcases stays with rfl | (((((⟨-, high⟩ | ⟨-, high⟩) | ⟨-, high⟩) | rfl) | rfl) | rfl) | rfl
  · decide
  · exact high.trans_lt (by decide)
  · exact high.trans_lt (by decide)
  · exact high.trans_lt (by decide)
  · decide
  · decide
  · decide
  · decide

/-- A key or a value is written as bytes are, with a `+` for each space. -/
theorem formText_eq (text : String) :
    formText text = (write queryKept (utf8 text)).map fun c => if c = ' ' then '+' else c := by
  rw [formText, write, List.map_flatMap]
  refine List.flatMap_congr fun b _ => ?_
  by_cases space : b = ' '.toUInt8
  · subst space
    rfl
  rw [if_neg space]
  have apart (c : Char) (other : c ≠ ' ') : (if c = ' ' then '+' else c) = c := if_neg other
  by_cases kept : formKept b = true
  · have stays : queryKept b = true := by simp [queryKept, kept]
    have other : asciiChar b ≠ ' ' := fun same =>
      space (eq_of_asciiChar (queryKept_ascii b stays) same)
    rw [if_pos kept, if_pos stays, List.map_singleton, apart _ other]
  · have escaped : queryKept b = false := by simp [queryKept, kept, space]
    rw [if_neg kept, escaped, if_neg Bool.false_ne_true]
    have solid : ∀ c ∈ escapeByte b, c ≠ ' ' := by
      rintro c member rfl
      exact absurd (escapeByte_subset b member) (by decide)
    rw [List.map_congr_left fun c member => apart c (solid c member), List.map_id']

theorem decodeQueryPart_formText (text : String) : decodeQueryPart (formText text) = some text := by
  have plus : '+' ∉ write queryKept (utf8 text) :=
    not_mem_write queryKept_ascii (by decide) (by decide) _
  have back : ((formText text).map fun c => if c = '+' then ' ' else c) = write queryKept (utf8 text) := by
    rw [formText_eq, List.map_map]
    refine (List.map_congr_left fun c member => ?_).trans (List.map_id' _)
    have other : c ≠ '+' := fun same => plus (same ▸ member)
    by_cases space : c = ' '
    · simp [space]
    · simp [space, other]
  rw [decodeQueryPart, back, decodePart, percentDecode_write queryKept_ascii (by decide), ofUtf8?_utf8]

/-- A separator of the query is neither a `+` nor kept. -/
theorem not_mem_formText {separator : Char} (apart : separator ∉ '%' :: hexDigits)
    (other : separator ≠ '+') (escaped : queryKept separator.toUInt8 = false) (text : String) :
    separator ∉ formText text := by
  rw [formText_eq]
  intro member
  obtain ⟨c, written, same⟩ := List.mem_map.mp member
  split at same
  · exact other same.symm
  · exact not_mem_write queryKept_ascii apart escaped _ (same ▸ written)

/-- A pair as it stands in the URL. -/
def pairText (pair : String × String) : List Char := formText pair.1 ++ '=' :: formText pair.2

theorem readPair_pairText (pair : String × String) : readPair (pairText pair) = some pair := by
  have cut : splitOnce '=' (pairText pair) = some (formText pair.1, formText pair.2) :=
    splitOnce_append (not_mem_formText (by decide) (by decide) (by decide) _) _
  simp only [readPair, cut, decodeQueryPart_formText, Option.bind_eq_bind, Option.bind_some]
  rfl

theorem ampersand_not_mem_pairText (pair : String × String) : '&' ∉ pairText pair := by
  have key : '&' ∉ formText pair.1 := not_mem_formText (by decide) (by decide) (by decide) _
  have value : '&' ∉ formText pair.2 := not_mem_formText (by decide) (by decide) (by decide) _
  simp [pairText, key, value]

/-! ### The whole URL -/

/-- What each entry gives back, all of them give back. -/
theorem mapM_map_eq {α β : Type} {write : α → β} {read : β → Option α}
    (back : ∀ entry, read (write entry) = some entry) (entries : List α) :
    (entries.map write).mapM read = some entries := by
  induction entries with
  | nil => rfl
  | cons entry rest ih => simp [back, ih]

def pathText (path : List String) : List Char := path.flatMap fun segment => '/' :: segmentText segment

def queryText (query : List (String × String)) : List Char :=
  if query.isEmpty then [] else '?' :: ['&'].intercalate (query.map pairText)

theorem splitOn_pathText (path : List String) :
    (pathText path).splitOn '/' = [] :: path.map segmentText := by
  have joined : pathText path = ['/'].intercalate ([] :: path.map segmentText) := by
    rw [intercalate_cons, List.nil_append, List.flatMap_map]
    rfl
  rw [joined, List.splitOn_intercalate]
  · intro part member
    rcases List.mem_cons.mp member with rfl | member
    · exact List.not_mem_nil
    · obtain ⟨segment, -, rfl⟩ := List.mem_map.mp member
      exact slash_not_mem_segmentText segment
  · exact List.cons_ne_nil _ _

theorem mark_not_mem_pathText (path : List String) : '?' ∉ pathText path := by
  intro member
  obtain ⟨segment, -, written⟩ := List.mem_flatMap.mp member
  rcases List.mem_cons.mp written with same | written
  · cases same
  · exact mark_not_mem_segmentText segment written

/-- **The parts are found again.** -/
theorem readAppended_text (path : List String) (query : List (String × String)) :
    readAppended (pathText path ++ queryText query) = some (path, query) := by
  have segments := mapM_map_eq decodePart_segmentText path
  have pairs := mapM_map_eq readPair_pairText query
  cases query with
  | nil =>
    have cut : splitOnce '?' (pathText path ++ queryText []) = none := by
      rw [queryText, if_pos List.isEmpty_nil, List.append_nil]
      exact splitOnce_eq_none.mpr (mark_not_mem_pathText path)
    rw [readAppended, cut]
    simp only [queryText, List.isEmpty_nil, if_true, List.append_nil, splitOn_pathText, List.tail_cons,
      segments]
    rfl
  | cons first rest =>
    have cut : splitOnce '?' (pathText path ++ queryText (first :: rest)) =
        some (pathText path, ['&'].intercalate ((first :: rest).map pairText)) :=
      splitOnce_append (mark_not_mem_pathText path) _
    have apart : (['&'].intercalate ((first :: rest).map pairText)).splitOn '&' =
        (first :: rest).map pairText := by
      refine List.splitOn_intercalate _ (fun part member => ?_) (List.cons_ne_nil _ _)
      obtain ⟨pair, -, rfl⟩ := List.mem_map.mp member
      exact ampersand_not_mem_pairText pair
    rw [readAppended, cut]
    simp only [apart, splitOn_pathText, List.tail_cons, segments, pairs]
    rfl

section Documented

variable {encoders : Encoders} (documented : encoders.Documented)

include documented

theorem toList_encodeSymbol (symbol : String) :
    (encodeSymbol encoders symbol).toList = segmentText symbol :=
  documented.percent symbol ENCODE_URI_COMPONENT

theorem toList_endpointUrl (baseUrl : String) (path : List String) (query : List (String × String)) :
    (endpointUrl encoders baseUrl path query).toList =
      baseUrl.toList ++ (pathText path ++ queryText query) := by
  have segments (base : String) :
      (path.foldl (fun url segment => url ++ "/" ++ encodeSymbol encoders segment) base).toList =
        base.toList ++ pathText path := by
    induction path generalizing base with
    | nil => simp [pathText]
    | cons segment rest ih =>
      rw [List.foldl_cons, ih, String.toList_append, String.toList_append,
        toList_encodeSymbol documented, pathText, pathText, List.flatMap_cons]
      simp
  unfold endpointUrl queryText
  cases query with
  | nil => simp [segments]
  | cons first rest =>
    simp only [List.isEmpty_cons, Bool.false_eq_true, if_false, String.toList_append, segments,
      documented.form, List.append_assoc]
    rfl

/-- **Request URLs round-trip.** -/
theorem endpointUrl_readBack (baseUrl : String) (path : List String) (query : List (String × String)) :
    (∃ appended, (endpointUrl encoders baseUrl path query).toList = baseUrl.toList ++ appended ∧
      readAppended appended = some (path, query)) ∧
      ∀ otherPath otherQuery, (path, query) ≠ (otherPath, otherQuery) →
        endpointUrl encoders baseUrl path query ≠ endpointUrl encoders baseUrl otherPath otherQuery := by
  refine ⟨⟨_, toList_endpointUrl documented baseUrl path query, readAppended_text path query⟩,
    fun otherPath otherQuery different same => different ?_⟩
  have text := congrArg String.toList same
  rw [toList_endpointUrl documented, toList_endpointUrl documented, List.append_cancel_left_eq] at text
  have read := readAppended_text path query
  rw [text, readAppended_text] at read
  exact (Option.some.inj read).symm

end Documented

/-- Encoders that do what is promised. -/
def byteEncoders : Encoders where
  utf8PercentEncode text set :=
    String.ofList (write (fun b => !(set.contains b || decide (128 ≤ b))) (utf8 text))
  formUrlencoded pairs :=
    String.ofList (['&'].intercalate (pairs.map fun pair => formText pair.1 ++ '=' :: formText pair.2))

theorem byteEncoders_documented : byteEncoders.Documented where
  percent _ _ := String.toList_ofList
  form _ := String.toList_ofList

example : endpointUrl byteEncoders "https://h/v1.0" ["quote", "TXFC4/TXFD4"]
    [("session", "afterhours"), ("a b", "x&y=z")] =
      "https://h/v1.0/quote/TXFC4%2FTXFD4?session=afterhours&a+b=x%26y%3Dz" := by decide

/-- A spread contract and a pair full of delimiters come back, and its slash makes no segment. -/
theorem endpointUrl_readBack_spread :
    (∃ appended,
      (endpointUrl byteEncoders "https://h/v1.0" ["quote", "TXFC4/TXFD4"] [("a b", "x&y=z")]).toList =
        "https://h/v1.0".toList ++ appended ∧
      readAppended appended = some (["quote", "TXFC4/TXFD4"], [("a b", "x&y=z")])) ∧
      endpointUrl byteEncoders "https://h/v1.0" ["quote", "TXFC4/TXFD4"] [("a b", "x&y=z")] ≠
        endpointUrl byteEncoders "https://h/v1.0" ["quote", "TXFC4", "TXFD4"] [("a b", "x&y=z")] := by
  obtain ⟨readBack, apart⟩ := endpointUrl_readBack byteEncoders_documented "https://h/v1.0"
    ["quote", "TXFC4/TXFD4"] [("a b", "x&y=z")]
  exact ⟨readBack, apart ["quote", "TXFC4", "TXFD4"] [("a b", "x&y=z")] (by decide)⟩

end FugleMarketdata.Rest
