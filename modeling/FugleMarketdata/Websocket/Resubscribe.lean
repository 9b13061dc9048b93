/-
**What a replay subscribes.** `frame_resubscribe` of `core/src/websocket/protocol.rs`, for any stored rows.

* `ResubscribeFrame.rows` — the rows a frame subscribes, a modifier that is false counting as absent;
* `ReplayGroups` — which rows are to share a frame, and in which order;
* `frameResubscribe_replays` — the frames subscribe these groups, and so each stored row once.
-/

import FugleMarketdata.Lib.Grouping
import FugleMarketdata.Websocket.Protocol

namespace FugleMarketdata

open Grouping

/-- A modifier as the server takes it: false is absent. -/
def presentFlag (flag : Option Bool) : Option Bool := if flag = some true then some true else none

/-- A row as the server takes it. -/
def SubscribeRequest.normalized (req : SubscribeRequest) : SubscribeRequest :=
  { req with
    afterHours := presentFlag req.afterHours
    intradayOddLot := presentFlag req.intradayOddLot }

/-- The rows a frame subscribes. -/
def ResubscribeFrame.rows (frame : ResubscribeFrame) : List SubscribeRequest :=
  match frame.frame with
  | .subscribe req => req.expand.map SubscribeRequest.normalized
  | _ => []

/-- The same channel and the same true modifiers. -/
def SameSession (row other : SubscribeRequest) : Prop :=
  row.channel = other.channel ∧ (row.afterHours = some true ↔ other.afterHours = some true) ∧
    (row.intradayOddLot = some true ↔ other.intradayOddLot = some true)

/-- Which rows are to share a frame: each row is in one group, those with a symbol with the others of their
session, those without alone; the groups are in the order of their first rows, and the rows of a group in
list order. -/
structure ReplayGroups (rows : List SubscribeRequest) (groups : List (List SubscribeRequest)) : Prop where
  nonempty : [] ∉ groups
  once : groups.flatten.Perm rows
  inOrder : ∀ group ∈ groups, group.Sublist rows
  heads : (groups.filterMap List.head?).Sublist rows
  together : ∀ row ∈ rows, ∀ other ∈ rows, row.symbol.isSome → other.symbol.isSome →
    ((∃ group ∈ groups, row ∈ group ∧ other ∈ group) ↔ SameSession row other)
  alone : ∀ row ∈ rows, row.symbol = none → ∀ group ∈ groups, row ∈ group → group = [row]

/-! ### The groups of the replay -/

/-- The rows by what they are grouped by. -/
def keyedRows (rows : List SubscribeRequest) : List (Group × SubscribeRequest) :=
  rows.zipIdx.map fun entry => (Group.of entry.1 entry.2, entry.1)

/-- The rows of each frame, in the order of the frames. -/
def replayGroups (rows : List SubscribeRequest) : List (List SubscribeRequest) :=
  (firsts ((keyedRows rows).map Prod.fst)).map (group (keyedRows rows))

theorem map_snd_keyedRows (rows : List SubscribeRequest) : (keyedRows rows).map Prod.snd = rows := by
  rw [keyedRows, List.map_map]
  exact List.zipIdx_map_fst 0 rows

theorem frameResubscribe_eq (rows : List SubscribeRequest) :
    frameResubscribe rows = (replayGroups rows).map groupFrame := by
  rw [replayGroups, ← values_gather]
  unfold frameResubscribe gather keyedRows
  rw [List.foldl_map]
  rfl

theorem mem_keyedRows {rows : List SubscribeRequest} {key : Group} {row : SubscribeRequest} :
    (key, row) ∈ keyedRows rows ↔ ∃ position, rows[position]? = some row ∧ Group.of row position = key := by
  rw [keyedRows, List.mem_map]
  constructor
  · rintro ⟨⟨other, position⟩, member, same⟩
    cases same
    exact ⟨position, by simpa using List.mk_mem_zipIdx_iff_getElem?.mp member, rfl⟩
  · rintro ⟨position, there, rfl⟩
    exact ⟨(row, position), List.mk_mem_zipIdx_iff_getElem?.mpr there, rfl⟩

theorem mem_replayGroups {rows : List SubscribeRequest} {members : List SubscribeRequest} :
    members ∈ replayGroups rows ↔
      ∃ key, (∃ row, (key, row) ∈ keyedRows rows) ∧ group (keyedRows rows) key = members := by
  rw [replayGroups, List.mem_map]
  refine exists_congr fun key => and_congr_left fun _ => ?_
  rw [mem_firsts, List.mem_map]
  constructor
  · rintro ⟨⟨_, row⟩, member, rfl⟩
    exact ⟨row, member⟩
  · rintro ⟨row, member⟩
    exact ⟨(key, row), member, rfl⟩

theorem groupOf_symbol {row : SubscribeRequest} (named : row.symbol.isSome) (position : Nat) :
    Group.of row position = .batch row.channel (decide (row.afterHours = some true))
      (decide (row.intradayOddLot = some true)) := by
  obtain ⟨symbol, some_⟩ := Option.isSome_iff_exists.mp named
  rw [Group.of, some_]

theorem groupOf_none {row : SubscribeRequest} (none_ : row.symbol = none) (position : Nat) :
    Group.of row position = .alone position := by
  rw [Group.of, none_]

theorem groupOf_eq_iff {row other : SubscribeRequest} (named : row.symbol.isSome)
    (otherNamed : other.symbol.isSome) (position otherPosition : Nat) :
    Group.of row position = Group.of other otherPosition ↔ SameSession row other := by
  rw [groupOf_symbol named, groupOf_symbol otherNamed, Group.batch.injEq, decide_eq_decide,
    decide_eq_decide]
  rfl

/-- A row without a symbol is alone in its group. -/
theorem group_alone (rows : List SubscribeRequest) {position : Nat} {row : SubscribeRequest}
    (member : row ∈ group (keyedRows rows) (.alone position)) :
    group (keyedRows rows) (.alone position) = [row] := by
  have here : group (keyedRows rows) (.alone position) =
      (rows.zipIdx.filter fun entry => Group.of entry.1 entry.2 = .alone position).map Prod.fst := by
    unfold group keyedRows
    rw [List.filter_map, List.map_map]
    rfl
  rw [here] at member ⊢
  generalize kept : (rows.zipIdx.filter fun entry => Group.of entry.1 entry.2 = .alone position) = entries
    at member ⊢
  have positions : ∀ found ∈ entries.map Prod.snd, found = position := by
    intro found listed
    obtain ⟨entry, shown, rfl⟩ := List.mem_map.mp listed
    rw [← kept] at shown
    have same := of_decide_eq_true (List.mem_filter.mp shown).2
    by_cases named : entry.1.symbol.isSome
    · rw [groupOf_symbol named] at same
      cases same
    · rw [groupOf_none (by simpa using named)] at same
      exact Group.alone.inj same
  have distinct : (entries.map Prod.snd).Nodup := by
    have sublist : (entries.map Prod.snd).Sublist (rows.zipIdx.map Prod.snd) :=
      (kept ▸ List.filter_sublist).map Prod.snd
    refine sublist.nodup ?_
    rw [List.zipIdx_map_snd]
    exact List.nodup_range'
  have few : entries.length ≤ 1 := by
    rw [List.eq_replicate_of_mem positions, List.nodup_replicate, List.length_map] at distinct
    exact distinct
  have some_ : entries ≠ [] := by
    rintro rfl
    cases member
  obtain ⟨entry, rfl⟩ := List.length_eq_one_iff.mp
    (Nat.le_antisymm few (List.length_pos_iff.mpr some_))
  rw [List.mem_singleton.mp member, List.map_singleton]

/-- The groups of the code are those a replay is to have. -/
theorem replayGroups_spec (rows : List SubscribeRequest) : ReplayGroups rows (replayGroups rows) := by
  constructor
  case nonempty =>
    intro empty
    obtain ⟨key, ⟨row, member⟩, none_⟩ := mem_replayGroups.mp empty
    exact group_ne_nil (List.mem_map_of_mem member) none_
  case once =>
    have together := perm_flatten_groups (keyedRows rows)
    rwa [map_snd_keyedRows] at together
  case inOrder =>
    intro members listed
    obtain ⟨key, -, rfl⟩ := mem_replayGroups.mp listed
    have sublist := group_sublist (keyedRows rows) key
    rwa [map_snd_keyedRows] at sublist
  case heads =>
    have sublist := heads_sublist (keyedRows rows)
    rw [map_snd_keyedRows] at sublist
    rwa [replayGroups, List.filterMap_map]
  case together =>
    intro row stored other otherStored named otherNamed
    constructor
    · rintro ⟨members, listed, inside, otherInside⟩
      obtain ⟨key, -, rfl⟩ := mem_replayGroups.mp listed
      obtain ⟨position, -, same⟩ := mem_keyedRows.mp (mem_group.mp inside)
      obtain ⟨otherPosition, -, otherSame⟩ := mem_keyedRows.mp (mem_group.mp otherInside)
      exact (groupOf_eq_iff named otherNamed position otherPosition).mp (same.trans otherSame.symm)
    · intro session
      obtain ⟨position, there⟩ := List.mem_iff_getElem?.mp stored
      obtain ⟨otherPosition, otherThere⟩ := List.mem_iff_getElem?.mp otherStored
      have same := (groupOf_eq_iff named otherNamed position otherPosition).mpr session
      have keyed : (Group.of row position, row) ∈ keyedRows rows := mem_keyedRows.mpr ⟨position, there, rfl⟩
      have otherKeyed : (Group.of row position, other) ∈ keyedRows rows :=
        mem_keyedRows.mpr ⟨otherPosition, otherThere, same.symm⟩
      exact ⟨_, mem_replayGroups.mpr ⟨_, ⟨row, keyed⟩, rfl⟩, mem_group.mpr keyed, mem_group.mpr otherKeyed⟩
  case alone =>
    intro row _ none_ members listed inside
    obtain ⟨key, -, rfl⟩ := mem_replayGroups.mp listed
    obtain ⟨position, -, rfl⟩ := mem_keyedRows.mp (mem_group.mp inside)
    rw [groupOf_none none_] at inside ⊢
    exact group_alone rows inside

/-! ### The rows of a frame -/

/-- A row of the batch that a first row makes. -/
def batchRow (first : SubscribeRequest) (symbol : String) : SubscribeRequest where
  channel := first.channel
  symbol := some symbol
  symbols := none
  afterHours := presentFlag first.afterHours
  intradayOddLot := presentFlag first.intradayOddLot

theorem batchRow_normalized {first row : SubscribeRequest} {symbol : String}
    (single : row.symbols = none) (some_ : row.symbol = some symbol) (session : SameSession first row) :
    (batchRow first symbol).normalized = row.normalized := by
  obtain ⟨channel, hours, lot⟩ := session
  obtain ⟨rowChannel, rowSymbol, rowSymbols, rowHours, rowLot⟩ := row
  simp only at some_ single channel hours lot
  subst some_ single channel
  simp only [batchRow, SubscribeRequest.normalized, presentFlag, ← hours, ← lot]
  congr 1 <;> split <;> rfl

/-- The rows of one batch: a symbol each, one session. -/
theorem rows_batch {first : SubscribeRequest} {members : List SubscribeRequest}
    (stored : ∀ row ∈ members, row.symbols = none) (named : ∀ row ∈ members, row.symbol.isSome)
    (session : ∀ row ∈ members, SameSession first row) :
    (batchRequest first members).expand.map SubscribeRequest.normalized =
      members.map SubscribeRequest.normalized := by
  have expands : (batchRequest first members).expand =
      (members.filterMap SubscribeRequest.symbol).map (batchRow first) := rfl
  rw [expands, List.map_map]
  clear expands
  induction members with
  | nil => rfl
  | cons row members ih =>
    obtain ⟨symbol, some_⟩ := Option.isSome_iff_exists.mp (named row List.mem_cons_self)
    have rest := ih (fun other member => stored other (List.mem_cons_of_mem _ member))
      (fun other member => named other (List.mem_cons_of_mem _ member))
      fun other member => session other (List.mem_cons_of_mem _ member)
    rw [List.filterMap_cons_some some_, List.map_cons, List.map_cons, rest]
    exact congrArg (· :: _)
      (batchRow_normalized (stored row List.mem_cons_self) some_ (session row List.mem_cons_self))

/-- The frame of a group subscribes its rows. -/
theorem rows_groupFrame {rows members : List SubscribeRequest} (stored : ∀ row ∈ rows, row.symbols = none)
    (listed : members ∈ replayGroups rows) :
    (groupFrame members).rows = members.map SubscribeRequest.normalized := by
  have spec := replayGroups_spec rows
  have within : ∀ row ∈ members, row ∈ rows := (spec.inOrder members listed).subset
  match members with
  | [] => exact absurd listed spec.nonempty
  | [row] =>
    have single := stored row (within row List.mem_cons_self)
    show row.expand.map _ = _
    rw [SubscribeRequest.expand, single]
  | first :: second :: rest =>
    have named : ∀ row ∈ first :: second :: rest, row.symbol.isSome := by
      intro row inside
      rw [Option.isSome_iff_ne_none]
      intro none_
      have lone := spec.alone row (within row inside) none_ _ listed inside
      simp at lone
    refine rows_batch (fun row inside => stored row (within row inside)) named fun row inside => ?_
    exact (spec.together first (within first List.mem_cons_self) row (within row inside)
      (named first List.mem_cons_self) (named row inside)).mp ⟨_, listed, List.mem_cons_self, inside⟩

/-- **A replay subscribes exactly the stored rows.** For stored rows (no row with a list of symbols), the
frames subscribe the groups a replay is to have, in their order, and so each stored row exactly once and
nothing else, a modifier that is false counting as absent. -/
theorem frameResubscribe_replays {rows : List SubscribeRequest}
    (stored : ∀ row ∈ rows, row.symbols = none) :
    ((frameResubscribe rows).flatMap ResubscribeFrame.rows).Perm (rows.map SubscribeRequest.normalized) ∧
      ∃ groups, ReplayGroups rows groups ∧
        (frameResubscribe rows).map ResubscribeFrame.rows =
          groups.map (List.map SubscribeRequest.normalized) := by
  have spec := replayGroups_spec rows
  have frames : (frameResubscribe rows).map ResubscribeFrame.rows =
      (replayGroups rows).map (List.map SubscribeRequest.normalized) := by
    rw [frameResubscribe_eq, List.map_map]
    exact List.map_congr_left fun members listed => rows_groupFrame stored listed
  refine ⟨?_, replayGroups rows, spec, frames⟩
  rw [List.flatMap_def, frames, ← List.map_flatten]
  exact spec.once.map SubscribeRequest.normalized

/-- Two regular rows of a channel, the second with its modifier off, around an odd-lot one. -/
def mixedRows : List SubscribeRequest :=
  [trades2330, { trades2330 with intradayOddLot := some true },
    { channel := "trades", symbol := some "2317", intradayOddLot := some false }]

theorem frameResubscribe_replays_mixedRows :
    (frameResubscribe mixedRows).map ResubscribeFrame.rows =
        [[trades2330, { channel := "trades", symbol := some "2317" }],
          [{ trades2330 with intradayOddLot := some true }]] ∧
      ((frameResubscribe mixedRows).flatMap ResubscribeFrame.rows).Perm
        (mixedRows.map SubscribeRequest.normalized) :=
  ⟨by decide, (frameResubscribe_replays (by decide)).1⟩

end FugleMarketdata
