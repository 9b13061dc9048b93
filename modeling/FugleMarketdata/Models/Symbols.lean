/-
**Symbol lists.** `core/src/models/symbols.rs`, and `SubscribeRequest::with_symbols` of
`core/src/models/subscription.rs`.

* `Symbols.normalized` — trimmed, blanks dropped, each symbol once, a batch of one as a single symbol;
* `Symbols.chunked` — batches of a given size;
* `normalized_canonical` — the result says which symbols the input spells, in order of first appearance, and
  nothing else; cutting into batches loses none.

Two inputs are one subscription exactly when they spell the same symbols in that order
(`withSymbols_eq_iff`).
-/

import Mathlib.Data.List.DropRight
import FugleMarketdata.Lib.Cutting
import FugleMarketdata.Lib.Grouping
import FugleMarketdata.Models.Subscription

namespace FugleMarketdata

open Grouping Cutting

/-! ### Trimming -/

/-- `char::is_whitespace`: the characters of Unicode's `White_Space`. -/
def isWhitespace (c : Char) : Bool :=
  c = ' ' || ('\x09' ≤ c && c ≤ '\x0d') || c = '\u0085' || c = '\u00a0' || c = '\u1680' ||
    ('\u2000' ≤ c && c ≤ '\u200a') || c = '\u2028' || c = '\u2029' || c = '\u202f' || c = '\u205f' ||
    c = '\u3000'

/-- `str::trim`. -/
def trim (s : String) : String :=
  String.ofList ((s.toList.dropWhile isWhitespace).rdropWhile isWhitespace)

@[simp] theorem trim_trim (s : String) : trim (trim s) = trim s := by
  unfold trim
  rw [String.toList_ofList]
  have start : ((s.toList.dropWhile isWhitespace).rdropWhile isWhitespace).dropWhile isWhitespace =
      (s.toList.dropWhile isWhitespace).rdropWhile isWhitespace := by
    obtain ⟨cut, whole⟩ := List.rdropWhile_prefix isWhitespace (s.toList.dropWhile isWhitespace)
    cases kept : (s.toList.dropWhile isWhitespace).rdropWhile isWhitespace with
    | nil => rfl
    | cons first rest =>
      -- what is kept starts where the front was cut
      have head := List.head?_dropWhile_not isWhitespace s.toList
      rw [← whole, kept] at head
      rw [List.dropWhile_cons_of_neg]
      simpa using head
  rw [start, List.rdropWhile_idempotent]

/-! ### The operations -/

namespace Symbols

/-- The canonical form. -/
def normalized : Symbols → Symbols
  | single s =>
    let t := trim s
    if t = "" then many [] else single t
  | many v =>
    let dedup := v.foldl (fun (dedup : IndexMap String Unit) s =>
      let t := trim s
      if t = "" then dedup else dedup.insert t ()) .empty
    let out := dedup.keys
    match out with
    | [only] => single only
    | out => many out

def len : Symbols → Nat
  | single _ => 1
  | many v => v.length

def isEmpty : Symbols → Bool
  | single _ => false
  | many v => v.isEmpty

/-- The symbols, in order. -/
def iter : Symbols → List String
  | single s => [s]
  | many v => v

/-- Batches of at most `maxPerChunk` symbols; `none` where the source panics. -/
def chunked (symbols : Symbols) (maxPerChunk : Nat) : Option (List Symbols) :=
  if maxPerChunk = 0 then none
  else
    let items := symbols.iter
    if items = [] then some []
    else
      some ((chunks maxPerChunk items).map fun chunk =>
        match chunk with
        | [only] => single only
        | chunk => many chunk)

theorem length_iter (symbols : Symbols) : symbols.iter.length = symbols.len := by
  cases symbols <;> rfl

/-! ### What a list spells -/

/-- The symbols as written, less the space around them; blanks do not count. -/
def spellings (symbols : Symbols) : List String := (symbols.iter.map trim).filter (· ≠ "")

/-- The distinct symbols, in order of first appearance. -/
def distinct (symbols : Symbols) : List String := firsts symbols.spellings

theorem distinct_seen (symbols : Symbols) : FirstSeen symbols.spellings symbols.distinct :=
  firsts_seen symbols.spellings

/-- A list of symbols, one of them as a single symbol. -/
def collapse : List String → Symbols
  | [only] => single only
  | out => many out

@[simp] theorem iter_collapse (symbols : List String) : (collapse symbols).iter = symbols := by
  unfold collapse
  split <;> rfl

theorem collapse_injective : Function.Injective collapse := by
  intro first second same
  rw [← iter_collapse first, same, iter_collapse]

theorem collapse_single_iff (symbols : List String) :
    (∃ only, collapse symbols = single only) ↔ symbols.length = 1 := by
  rw [List.length_eq_one_iff]
  constructor
  · rintro ⟨only, same⟩
    exact ⟨only, by rw [← iter_collapse symbols, same]; rfl⟩
  · rintro ⟨only, rfl⟩
    exact ⟨only, rfl⟩

/-- The fold that fills the set takes the spellings one by one. -/
theorem foldl_dedup (v : List String) (set : IndexMap String Unit) :
    v.foldl (fun (dedup : IndexMap String Unit) s =>
      let t := trim s
      if t = "" then dedup else dedup.insert t ()) set =
    ((v.map trim).filter (· ≠ "")).foldl (fun set key => set.insert key ()) set := by
  induction v generalizing set with
  | nil => rw [List.map_nil, List.filter_nil, List.foldl_nil, List.foldl_nil]
  | cons s rest ih =>
    rw [List.foldl_cons, ih, List.map_cons, List.filter_cons]
    by_cases blank : trim s = ""
    · simp [blank]
    · simp [blank]

/-- **Normalising keeps what is spelled.** -/
theorem normalized_eq (symbols : Symbols) : symbols.normalized = collapse symbols.distinct := by
  cases symbols with
  | single s =>
    by_cases blank : trim s = ""
    · simp [normalized, distinct, spellings, iter, blank, firsts, collapse]
    · simp [normalized, distinct, spellings, iter, blank, firsts, collapse]
  | many v =>
    have filled := keys_foldl_insert ((v.map trim).filter (· ≠ ""))
    rw [← foldl_dedup] at filled
    unfold normalized distinct spellings iter collapse
    simp only [filled]

@[simp] theorem iter_normalized (symbols : Symbols) : symbols.normalized.iter = symbols.distinct := by
  rw [normalized_eq, iter_collapse]

/-- What is normalised is spelled as it is. -/
theorem spellings_normalized (symbols : Symbols) : symbols.normalized.spellings = symbols.distinct := by
  have written : ∀ symbol ∈ symbols.distinct, symbol ≠ "" ∧ trim symbol = symbol := by
    intro symbol member
    obtain ⟨original, solid⟩ := List.mem_filter.mp ((symbols.distinct_seen.mem_iff symbol).mp member)
    obtain ⟨source, -, rfl⟩ := List.mem_map.mp original
    exact ⟨of_decide_eq_true solid, trim_trim source⟩
  have same : symbols.distinct.map trim = symbols.distinct := by
    rw [List.map_congr_left fun symbol member => (written symbol member).2, List.map_id']
  rw [spellings, iter_normalized, same, List.filter_eq_self]
  exact fun symbol member => decide_eq_true (written symbol member).1

theorem distinct_normalized (symbols : Symbols) : symbols.normalized.distinct = symbols.distinct := by
  rw [distinct, spellings_normalized, firsts_eq_self symbols.distinct_seen.nodup]

theorem normalized_eq_iff (symbols other : Symbols) :
    symbols.normalized = other.normalized ↔ symbols.distinct = other.distinct := by
  rw [normalized_eq, normalized_eq, collapse_injective.eq_iff]

theorem normalized_idempotent (symbols : Symbols) : symbols.normalized.normalized = symbols.normalized := by
  rw [normalized_eq_iff, distinct_normalized]

/-! ### Batches -/

theorem chunked_eq (symbols : Symbols) {maxPerChunk : Nat} (positive : 0 < maxPerChunk) :
    symbols.chunked maxPerChunk = some ((chunks maxPerChunk symbols.iter).map collapse) := by
  rw [chunked, if_neg (Nat.pos_iff_ne_zero.mp positive)]
  by_cases none : symbols.iter = []
  · simp [none, chunks_nil]
  · rw [if_neg none]
    rfl

end Symbols

open Symbols

/-- **The canonical form.** -/
theorem normalized_canonical (symbols : Symbols) :
    FirstSeen symbols.spellings symbols.distinct ∧ symbols.normalized.iter = symbols.distinct ∧
      ((∃ only, symbols.normalized = .single only) ↔ symbols.distinct.length = 1) ∧
      symbols.normalized.normalized = symbols.normalized ∧
      (∀ other : Symbols, symbols.normalized = other.normalized ↔ symbols.distinct = other.distinct) ∧
      ∀ maxPerChunk, 0 < maxPerChunk → ∃ parts, symbols.chunked maxPerChunk = some parts ∧
        (∀ part ∈ parts, 0 < part.len ∧ part.len ≤ maxPerChunk) ∧
        (∀ part ∈ parts.dropLast, part.len = maxPerChunk) ∧ parts.flatMap iter = symbols.iter := by
  refine ⟨symbols.distinct_seen, symbols.iter_normalized, ?_, symbols.normalized_idempotent,
    symbols.normalized_eq_iff, fun maxPerChunk positive =>
      ⟨_, symbols.chunked_eq positive, fun part member => ?_, fun part member => ?_, ?_⟩⟩
  · rw [normalized_eq, collapse_single_iff]
  · obtain ⟨chunk, inChunks, rfl⟩ := List.mem_map.mp member
    rw [← length_iter, iter_collapse]
    exact length_of_mem_chunks positive inChunks
  · rw [← List.map_dropLast] at member
    obtain ⟨chunk, inChunks, rfl⟩ := List.mem_map.mp member
    rw [← length_iter, iter_collapse]
    exact length_of_mem_dropLast_chunks positive inChunks
  · rw [List.flatMap_map, List.flatMap_congr fun chunk _ => iter_collapse chunk, List.flatMap_id']
    exact flatten_chunks _ _

/-- Five symbols go out two at a time. -/
theorem normalized_canonical_batches :
    ∃ parts, (many ["A", "B", "C", "D", "E"]).chunked 2 = some parts ∧
      parts.flatMap iter = ["A", "B", "C", "D", "E"] := by
  obtain ⟨parts, cut, -, -, whole⟩ :=
    (normalized_canonical (many ["A", "B", "C", "D", "E"])).2.2.2.2.2 2 (by decide)
  exact ⟨parts, cut, whole⟩

/-! ### Requests -/

/-- `SubscribeRequest::with_symbols`. -/
def Channel.withSymbols (channel : Channel) (symbols : Symbols) : SubscribeRequest :=
  let req : SubscribeRequest := { channel := channel.asStr }
  match symbols.normalized with
  | single s => { req with symbol := some s }
  | many v => if v.isEmpty then req else { req with symbols := some v }

/-- The request carries the distinct symbols, one of them in `symbol`. -/
theorem withSymbols_carries (channel : Channel) (symbols : Symbols) :
    (channel.withSymbols symbols).symbol.toList ++ (channel.withSymbols symbols).symbols.getD [] =
      symbols.distinct := by
  rw [← iter_normalized]
  unfold Channel.withSymbols
  cases symbols.normalized with
  | single s => rfl
  | many v => cases v <;> rfl

/-- Two inputs give one request exactly when they spell the same symbols in the same order. -/
theorem withSymbols_eq_iff (channel : Channel) (symbols other : Symbols) :
    channel.withSymbols symbols = channel.withSymbols other ↔ symbols.distinct = other.distinct := by
  constructor
  · intro same
    rw [← withSymbols_carries channel, same, withSymbols_carries]
  · intro same
    rw [Channel.withSymbols, (normalized_eq_iff symbols other).mpr same, Channel.withSymbols]

end FugleMarketdata
