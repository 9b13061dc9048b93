/-
**Maps that remember insertion order.**

A list of key-value pairs with distinct keys. A new key goes to the end, a key inserted again keeps
its place and takes the new value, and removing a key shifts the later ones up. Where the order is
never looked at the same structure serves as a hash map.
-/

import Mathlib.Data.List.Nodup
import Mathlib.Data.List.TakeWhile

/-- An insertion-ordered map: its pairs in order, the keys distinct. -/
structure IndexMap (κ ν : Type) where
  entries : List (κ × ν)
  nodup : (entries.map Prod.fst).Nodup

namespace IndexMap

variable {κ ν : Type}

/-! ### Operations -/

/-- The empty map. -/
def empty : IndexMap κ ν := ⟨[], List.nodup_nil⟩

/-- The keys, in order. -/
def keys (m : IndexMap κ ν) : List κ := m.entries.map Prod.fst

/-- The values, in the order of their keys. -/
def values (m : IndexMap κ ν) : List ν := m.entries.map Prod.snd

instance : Membership κ (IndexMap κ ν) := ⟨fun m k => k ∈ m.keys⟩

variable [DecidableEq κ]

instance (m : IndexMap κ ν) (k : κ) : Decidable (k ∈ m) := inferInstanceAs (Decidable (k ∈ m.keys))

/-- The value of a key. -/
def get? (m : IndexMap κ ν) (k : κ) : Option ν := m.entries.lookup k

/-- The pairs with `k` given the value `v`: in place when `k` is there, at the end otherwise. -/
def setEntry (entries : List (κ × ν)) (k : κ) (v : ν) : List (κ × ν) :=
  if k ∈ entries.map Prod.fst then entries.map fun e => if e.1 = k then (k, v) else e
  else entries ++ [(k, v)]

theorem map_fst_setEntry (entries : List (κ × ν)) (k : κ) (v : ν) :
    (setEntry entries k v).map Prod.fst =
      if k ∈ entries.map Prod.fst then entries.map Prod.fst else entries.map Prod.fst ++ [k] := by
  unfold setEntry
  split
  · rw [List.map_map]
    refine List.map_congr_left fun e _ => ?_
    by_cases same : e.1 = k <;> simp [same]
  · rw [List.map_append, List.map_singleton]

/-- Give `k` the value `v`. -/
def insert (m : IndexMap κ ν) (k : κ) (v : ν) : IndexMap κ ν where
  entries := setEntry m.entries k v
  nodup := by
    rw [map_fst_setEntry]
    split
    · exact m.nodup
    · rename_i fresh
      rw [List.nodup_append]
      refine ⟨m.nodup, List.nodup_singleton k, fun a member b single => ?_⟩
      rw [List.mem_singleton] at single
      rintro rfl
      exact fresh (single ▸ member)

/-- Remove `k`; the keys after it move up. -/
def shiftRemove (m : IndexMap κ ν) (k : κ) : IndexMap κ ν where
  entries := m.entries.filter fun e => e.1 ≠ k
  nodup := (List.filter_sublist.map Prod.fst).nodup m.nodup

/-- The pairs without `k`, the last pair in its place. -/
def swapEntry (entries : List (κ × ν)) (k : κ) : List (κ × ν) :=
  let before := entries.takeWhile fun e => e.1 ≠ k
  match entries.dropWhile fun e => e.1 ≠ k with
  | [] => entries
  | _ :: behind => before ++ behind.getLast?.toList ++ behind.dropLast

theorem perm_swapEntry {entries : List (κ × ν)} {e : κ × ν} (member : e ∈ entries)
    (nodup : (entries.map Prod.fst).Nodup) : entries.Perm (e :: swapEntry entries e.1) := by
  have split := List.takeWhile_append_dropWhile (p := fun other : κ × ν => other.1 ≠ e.1) (l := entries)
  have rest : ∃ behind, entries.dropWhile (fun other => other.1 ≠ e.1) = e :: behind := by
    obtain ⟨before, behind, rfl⟩ := List.append_of_mem member
    refine ⟨behind, ?_⟩
    rw [List.dropWhile_append_of_pos, List.dropWhile_cons_of_neg (by simp)]
    intro other ahead
    rw [List.map_append, List.map_cons] at nodup
    have apart := (List.nodup_append.mp nodup).2.2 other.1 (List.mem_map_of_mem ahead) e.1
      List.mem_cons_self
    simpa using apart
  obtain ⟨behind, drops⟩ := rest
  have moved : (behind.getLast?.toList ++ behind.dropLast).Perm behind := by
    rcases List.eq_nil_or_concat behind with rfl | ⟨front, last, rfl⟩
    · exact List.Perm.refl _
    · simpa using (List.perm_append_singleton last front).symm
  rw [drops] at split
  rw [swapEntry, drops]
  nth_rewrite 1 [← split]
  simp only [List.append_assoc]
  exact List.perm_middle.trans ((moved.symm.append_left _).cons e)

/-- Remove `k`; the last pair takes its place. -/
def swapRemove (m : IndexMap κ ν) (k : κ) : IndexMap κ ν where
  entries := swapEntry m.entries k
  nodup := by
    by_cases member : k ∈ m.entries.map Prod.fst
    · obtain ⟨e, there, rfl⟩ := List.mem_map.mp member
      have distinct := ((perm_swapEntry there m.nodup).map Prod.fst).nodup_iff.mp m.nodup
      exact (List.nodup_cons.mp distinct).2
    · have whole : m.entries.dropWhile (fun e => e.1 ≠ k) = [] := by
        refine List.dropWhile_eq_nil_iff.mpr fun e there => ?_
        have other : e.1 ≠ k := fun same => member (same ▸ List.mem_map_of_mem there)
        simpa using other
      rw [swapEntry, whole]
      exact m.nodup

/-- Remove each of some keys. -/
def removeAll (m : IndexMap κ ν) (ks : List κ) : IndexMap κ ν := ks.foldl shiftRemove m

/-- Keep the pairs a test accepts. -/
def retain (m : IndexMap κ ν) (keep : κ → ν → Bool) : IndexMap κ ν where
  entries := m.entries.filter fun e => keep e.1 e.2
  nodup := (List.filter_sublist.map Prod.fst).nodup m.nodup

/-! ### Membership and lookup -/

omit [DecidableEq κ] in
@[simp] theorem not_mem_empty (k : κ) : k ∉ (empty : IndexMap κ ν) := by
  intro member
  cases member

omit [DecidableEq κ] in
theorem mem_keys {m : IndexMap κ ν} {k : κ} : k ∈ m.keys ↔ k ∈ m := Iff.rfl

omit [DecidableEq κ] in
@[simp] theorem keys_empty : (empty : IndexMap κ ν).keys = [] := rfl

omit [DecidableEq κ] in
@[simp] theorem values_empty : (empty : IndexMap κ ν).values = [] := rfl

@[simp] theorem get?_empty (k : κ) : (empty : IndexMap κ ν).get? k = none := rfl

theorem keys_insert (m : IndexMap κ ν) (k : κ) (v : ν) :
    (m.insert k v).keys = if k ∈ m then m.keys else m.keys ++ [k] := map_fst_setEntry m.entries k v

@[simp] theorem mem_insert {m : IndexMap κ ν} {k other : κ} {v : ν} :
    other ∈ m.insert k v ↔ other = k ∨ other ∈ m := by
  rw [← mem_keys, keys_insert]
  split
  · rename_i present
    exact ⟨Or.inr, fun either => either.elim (fun same => same ▸ present) id⟩
  · rw [List.mem_append, List.mem_singleton, or_comm, mem_keys]

theorem keys_shiftRemove (m : IndexMap κ ν) (k : κ) :
    (m.shiftRemove k).keys = m.keys.filter fun other => other ≠ k := by
  simp only [keys, shiftRemove, List.filter_map, Function.comp_def]

@[simp] theorem mem_shiftRemove {m : IndexMap κ ν} {k other : κ} :
    other ∈ m.shiftRemove k ↔ other ≠ k ∧ other ∈ m := by
  rw [← mem_keys, keys_shiftRemove, List.mem_filter, mem_keys, decide_eq_true_eq, and_comm]

theorem entries_removeAll (m : IndexMap κ ν) (ks : List κ) :
    (m.removeAll ks).entries = m.entries.filter fun e => e.1 ∉ ks := by
  induction ks generalizing m with
  | nil => simp [removeAll]
  | cons first rest ih =>
    show ((m.shiftRemove first).removeAll rest).entries = _
    rw [ih, shiftRemove, List.filter_filter]
    refine List.filter_congr fun e _ => ?_
    simp [Bool.and_comm]

@[simp] theorem mem_removeAll {m : IndexMap κ ν} {ks : List κ} {k : κ} :
    k ∈ m.removeAll ks ↔ k ∉ ks ∧ k ∈ m := by
  induction ks generalizing m with
  | nil => simp [removeAll]
  | cons first rest ih =>
    show k ∈ (m.shiftRemove first).removeAll rest ↔ _
    rw [ih, mem_shiftRemove, List.mem_cons]
    tauto

/-- A lookup finds exactly the pairs of the map. -/
theorem get?_eq_some {m : IndexMap κ ν} {k : κ} {v : ν} : m.get? k = some v ↔ (k, v) ∈ m.entries := by
  obtain ⟨entries, nodup⟩ := m
  show entries.lookup k = some v ↔ (k, v) ∈ entries
  induction entries with
  | nil => simp
  | cons e rest ih =>
    obtain ⟨first, value⟩ := e
    rw [List.map_cons, List.nodup_cons] at nodup
    rw [List.lookup_cons, List.mem_cons]
    by_cases same : k = first
    · subst same
      have absent : (k, v) ∉ rest := fun member =>
        nodup.1 (List.mem_map.mpr ⟨(k, v), member, rfl⟩)
      simp [absent, eq_comm]
    · simp only [beq_eq_false_iff_ne.mpr same, ih nodup.2, Prod.mk.injEq, same, false_and, false_or]

theorem get?_eq_none {m : IndexMap κ ν} {k : κ} : m.get? k = none ↔ k ∉ m := by
  rw [get?, List.lookup_eq_none_iff, ← mem_keys, keys, List.mem_map]
  constructor
  · rintro differ ⟨e, member, rfl⟩
    simpa using differ e member
  · intro absent e member
    simp only [ne_eq, bne_iff_ne]
    rintro rfl
    exact absent ⟨e, member, rfl⟩

theorem mem_iff_get? {m : IndexMap κ ν} {k : κ} : k ∈ m ↔ ∃ v, m.get? k = some v := by
  rw [← Option.isSome_iff_exists, ← Option.ne_none_iff_isSome, Ne, get?_eq_none, not_not]

theorem mem_of_get? {m : IndexMap κ ν} {k : κ} {v : ν} (found : m.get? k = some v) : k ∈ m :=
  mem_iff_get?.mpr ⟨v, found⟩

theorem get?_insert (m : IndexMap κ ν) (k other : κ) (v : ν) :
    (m.insert k v).get? other = if other = k then some v else m.get? other := by
  apply Option.ext
  intro value
  rw [get?_eq_some]
  show (other, value) ∈ setEntry m.entries k v ↔ _
  unfold setEntry
  by_cases present : k ∈ m.entries.map Prod.fst
  · rw [if_pos present, List.mem_map]
    constructor
    · rintro ⟨e, member, moved⟩
      by_cases here : e.1 = k
      · rw [if_pos here, Prod.mk.injEq] at moved
        rw [if_pos moved.1.symm, moved.2]
      · rw [if_neg here] at moved
        subst moved
        rw [if_neg here]
        exact get?_eq_some.mpr member
    · intro found
      by_cases same : other = k
      · rw [if_pos same, Option.some.injEq] at found
        obtain ⟨e, member, here⟩ := List.mem_map.mp present
        exact ⟨e, member, by rw [if_pos here, same, found]⟩
      · rw [if_neg same, get?_eq_some] at found
        exact ⟨(other, value), found, if_neg same⟩
  · rw [if_neg present, List.mem_append, List.mem_singleton, Prod.mk.injEq]
    by_cases same : other = k
    · subst same
      have absent : (other, value) ∉ m.entries := fun member =>
        present (List.mem_map_of_mem (f := Prod.fst) member)
      simp [absent, eq_comm]
    · rw [if_neg same, get?_eq_some]
      simp [same]

theorem get?_insert_self (m : IndexMap κ ν) (k : κ) (v : ν) : (m.insert k v).get? k = some v := by
  rw [get?_insert, if_pos rfl]

theorem get?_shiftRemove (m : IndexMap κ ν) (k other : κ) :
    (m.shiftRemove k).get? other = if other = k then none else m.get? other := by
  apply Option.ext
  intro value
  rw [get?_eq_some]
  show (other, value) ∈ m.entries.filter _ ↔ _
  rw [List.mem_filter]
  by_cases same : other = k
  · simp [same]
  · simp [same, get?_eq_some]

/-- What is left once a pair is taken out. -/
theorem perm_swapRemove {m : IndexMap κ ν} {k : κ} {v : ν} (found : m.get? k = some v) :
    m.entries.Perm ((k, v) :: (m.swapRemove k).entries) :=
  perm_swapEntry (get?_eq_some.mp found) m.nodup

theorem get?_swapRemove {m : IndexMap κ ν} {k : κ} {v : ν} (found : m.get? k = some v) (other : κ) :
    (m.swapRemove k).get? other = if other = k then none else m.get? other := by
  have moved := perm_swapRemove found
  have distinct := (moved.map Prod.fst).nodup_iff.mp m.nodup
  rw [List.map_cons, List.nodup_cons] at distinct
  apply Option.ext
  intro value
  by_cases same : other = k
  · subst same
    rw [if_pos rfl, get?_eq_some]
    have gone : (other, value) ∉ (m.swapRemove other).entries := by
      intro member
      have key : other ∈ (m.swapRemove other).entries.map Prod.fst := List.mem_map_of_mem (f := Prod.fst) member
      exact distinct.1 key
    simpa using gone
  · rw [if_neg same, get?_eq_some, get?_eq_some, moved.mem_iff, List.mem_cons]
    simp [same]

theorem get?_removeAll (m : IndexMap κ ν) (ks : List κ) (k : κ) :
    (m.removeAll ks).get? k = if k ∈ ks then none else m.get? k := by
  induction ks generalizing m with
  | nil => simp [removeAll]
  | cons first rest ih =>
    show ((m.shiftRemove first).removeAll rest).get? k = _
    rw [ih, get?_shiftRemove]
    by_cases inRest : k ∈ rest
    · rw [if_pos inRest, if_pos (List.mem_cons_of_mem _ inRest)]
    · rw [if_neg inRest]
      by_cases same : k = first
      · rw [if_pos same, if_pos (List.mem_cons.mpr (Or.inl same))]
      · rw [if_neg same, if_neg (by simp [same, inRest])]

theorem get?_retain {m : IndexMap κ ν} {keep : κ → ν → Bool} {k : κ} {v : ν} :
    (m.retain keep).get? k = some v ↔ m.get? k = some v ∧ keep k v = true := by
  rw [get?_eq_some, get?_eq_some]
  exact List.mem_filter

omit [DecidableEq κ] in
/-- Every value belongs to a key of the map. -/
theorem exists_of_mem_values {m : IndexMap κ ν} {v : ν} (member : v ∈ m.values) :
    ∃ k, (k, v) ∈ m.entries := by
  obtain ⟨⟨k, value⟩, inEntries, rfl⟩ := List.mem_map.mp member
  exact ⟨k, inEntries⟩

/-- What holds of every pair, and of a new one, holds of every pair after the insertion. -/
theorem forall_entries_insert {P : κ × ν → Prop} {m : IndexMap κ ν} {k : κ} {v : ν}
    (old : ∀ e ∈ m.entries, P e) (new : P (k, v)) : ∀ e ∈ (m.insert k v).entries, P e := by
  rintro ⟨other, value⟩ member
  have found := get?_eq_some.mpr member
  rw [get?_insert] at found
  by_cases same : other = k
  · rw [if_pos same, Option.some.injEq] at found
    rw [same, ← found]
    exact new
  · rw [if_neg same] at found
    exact old _ (get?_eq_some.mp found)

end IndexMap
