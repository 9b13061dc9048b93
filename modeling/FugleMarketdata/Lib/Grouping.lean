/-
**Grouping by a key, both orders kept.** A list of keyed elements is gathered into an insertion-ordered
map, each element behind those of its key.

* `firsts` — the keys in the order of their first appearance;
* `FirstSeen`, `firsts_seen` — what that order is, and that one list only has it;
* `entries_gather` — the groups are those of `firsts`, each with its elements in list order;
* `perm_flatten_groups`, `group_sublist`, `heads_sublist` — no element is lost or added, each group keeps
  the order of the list, and the groups are in the order of their first elements.
-/

import Mathlib.Data.List.Induction
import Mathlib.Data.List.Sort
import FugleMarketdata.Lib.IndexMap

namespace Grouping

variable {κ ν : Type} [DecidableEq κ]

/-! ### Keys in order of appearance -/

/-- The keys of a list without repetitions, each where it first appears. -/
def firsts (keys : List κ) : List κ :=
  keys.foldl (fun seen key => if key ∈ seen then seen else seen ++ [key]) []

theorem firsts_concat (keys : List κ) (key : κ) :
    firsts (keys ++ [key]) = if key ∈ firsts keys then firsts keys else firsts keys ++ [key] := by
  unfold firsts
  rw [List.foldl_append]
  rfl

@[simp] theorem mem_firsts {keys : List κ} {key : κ} : key ∈ firsts keys ↔ key ∈ keys := by
  induction keys using List.reverseRecOn with
  | nil => simp [firsts]
  | append_singleton keys last ih =>
    rw [firsts_concat]
    by_cases seen : last ∈ firsts keys
    · rw [if_pos seen, ih, List.mem_append, List.mem_singleton]
      refine ⟨Or.inl, fun either => either.elim id fun same => ?_⟩
      subst same
      exact ih.mp seen
    · rw [if_neg seen, List.mem_append, List.mem_append, ih]

theorem nodup_firsts (keys : List κ) : (firsts keys).Nodup := by
  induction keys using List.reverseRecOn with
  | nil => exact List.nodup_nil
  | append_singleton keys last ih =>
    rw [firsts_concat]
    split
    · exact ih
    · rename_i fresh
      rw [← List.concat_eq_append]
      exact ih.concat fresh

/-- `distinct` has the entries of `keys`, each once, in the order of their first appearance. -/
structure FirstSeen (keys distinct : List κ) : Prop where
  mem_iff : ∀ key, key ∈ distinct ↔ key ∈ keys
  ordered : distinct.Pairwise fun first second => keys.idxOf first < keys.idxOf second

namespace FirstSeen

variable {keys distinct : List κ}

theorem nodup (seen : FirstSeen keys distinct) : distinct.Nodup :=
  seen.ordered.imp fun before same => by
    rw [same] at before
    exact lt_irrefl _ before

/-- One list only is the order of first appearance. -/
theorem unique {other : List κ} (seen : FirstSeen keys distinct) (also : FirstSeen keys other) :
    distinct = other := by
  have perm := (List.perm_ext_iff_of_nodup seen.nodup also.nodup).mpr fun key => by
    rw [seen.mem_iff, also.mem_iff]
  exact perm.eq_of_pairwise (fun _ _ _ _ before after => absurd before (lt_asymm after)) seen.ordered
    also.ordered

end FirstSeen

theorem firsts_seen (keys : List κ) : FirstSeen keys (firsts keys) where
  mem_iff _ := mem_firsts
  ordered := by
    induction keys using List.reverseRecOn with
    | nil => exact List.Pairwise.nil
    | append_singleton keys last ih =>
      have before : (firsts keys).Pairwise fun first second =>
          (keys ++ [last]).idxOf first < (keys ++ [last]).idxOf second := by
        refine ih.imp_of_mem fun {first second} here there before => ?_
        rwa [List.idxOf_append_of_mem (mem_firsts.mp here),
          List.idxOf_append_of_mem (mem_firsts.mp there)]
      rw [firsts_concat]
      split
      · exact before
      · rename_i fresh
        refine List.pairwise_append.mpr ⟨before, List.pairwise_singleton _ _, fun key there _ single => ?_⟩
        rw [List.mem_singleton] at single
        have known : key ∈ keys := mem_firsts.mp there
        have new : last ∉ keys := fun member => fresh (mem_firsts.mpr member)
        rw [single, List.idxOf_append_of_mem known, List.idxOf_append_of_notMem new]
        exact (List.idxOf_lt_length_of_mem known).trans_le (Nat.le_add_right _ _)

/-- Entries without repetitions are their own order of first appearance. -/
theorem firsts_eq_self {keys : List κ} (distinct : keys.Nodup) : firsts keys = keys := by
  induction keys using List.reverseRecOn with
  | nil => rfl
  | append_singleton keys last ih =>
    obtain ⟨before, -, apart⟩ := List.nodup_append.mp distinct
    rw [firsts_concat, ih before, if_neg]
    exact fun member => apart last member last List.mem_cons_self rfl

/-- The keys of an insertion-ordered set that takes the entries one by one. -/
theorem keys_foldl_insert (keys : List κ) :
    (keys.foldl (fun set key => set.insert key ()) (IndexMap.empty : IndexMap κ Unit)).keys =
      firsts keys := by
  induction keys using List.reverseRecOn with
  | nil => rfl
  | append_singleton keys last ih =>
    rw [List.foldl_append, List.foldl_cons, List.foldl_nil, IndexMap.keys_insert, firsts_concat, ← ih]
    rfl

/-! ### Groups -/

/-- The elements of a key, in list order. -/
def group (pairs : List (κ × ν)) (key : κ) : List ν :=
  (pairs.filter fun pair => pair.1 = key).map Prod.snd

/-- Put an element behind those of its key. -/
def put (groups : IndexMap κ (List ν)) (pair : κ × ν) : IndexMap κ (List ν) :=
  groups.insert pair.1 ((groups.get? pair.1).getD [] ++ [pair.2])

/-- All elements put into their groups, in list order. -/
def gather (pairs : List (κ × ν)) : IndexMap κ (List ν) := pairs.foldl put .empty

theorem group_concat (pairs : List (κ × ν)) (pair : κ × ν) (key : κ) :
    group (pairs ++ [pair]) key = if pair.1 = key then group pairs key ++ [pair.2] else group pairs key := by
  unfold group
  rw [List.filter_append, List.map_append]
  split
  · rename_i same
    simp [same]
  · rename_i different
    simp [different]

theorem group_eq_nil {pairs : List (κ × ν)} {key : κ} (absent : key ∉ pairs.map Prod.fst) :
    group pairs key = [] := by
  rw [group, List.map_eq_nil_iff, List.filter_eq_nil_iff]
  intro pair member same
  exact absent (List.mem_map.mpr ⟨pair, member, of_decide_eq_true same⟩)

theorem entries_gather (pairs : List (κ × ν)) :
    (gather pairs).entries = (firsts (pairs.map Prod.fst)).map fun key => (key, group pairs key) := by
  induction pairs using List.reverseRecOn with
  | nil => rfl
  | append_singleton pairs pair ih =>
    have keys : (gather pairs).entries.map Prod.fst = firsts (pairs.map Prod.fst) := by
      rw [ih, List.map_map]
      exact List.map_id _
    have found : ((gather pairs).get? pair.1).getD [] = group pairs pair.1 := by
      cases known : (gather pairs).get? pair.1 with
      | none =>
        have absent : pair.1 ∉ (gather pairs).entries.map Prod.fst := IndexMap.get?_eq_none.mp known
        rw [keys, mem_firsts] at absent
        exact (group_eq_nil absent).symm
      | some members =>
        have entry := IndexMap.get?_eq_some.mp known
        rw [ih] at entry
        obtain ⟨key, -, same⟩ := List.mem_map.mp entry
        cases same
        rfl
    have step : gather (pairs ++ [pair]) = put (gather pairs) pair := by
      unfold gather
      rw [List.foldl_append]
      rfl
    rw [step, List.map_append, List.map_singleton, firsts_concat, ← keys, put, found]
    show IndexMap.setEntry _ _ _ = _
    unfold IndexMap.setEntry
    by_cases seen : pair.1 ∈ (gather pairs).entries.map Prod.fst
    · rw [if_pos seen, if_pos seen, keys, ih, List.map_map]
      refine List.map_congr_left fun key _ => ?_
      rw [group_concat]
      by_cases same : pair.1 = key
      · simp [same]
      · simp [same, Ne.symm same]
    · rw [if_neg seen, if_neg seen, List.map_append, List.map_singleton, group_concat, if_pos rfl, keys, ih]
      refine congrArg (· ++ _) (List.map_congr_left fun key member => ?_)
      have different : pair.1 ≠ key := by
        rintro rfl
        exact seen (keys ▸ member)
      rw [group_concat, if_neg different]

theorem values_gather (pairs : List (κ × ν)) :
    (gather pairs).values = (firsts (pairs.map Prod.fst)).map (group pairs) := by
  rw [IndexMap.values, entries_gather, List.map_map]
  rfl

/-! ### What the groups keep -/

theorem group_ne_nil {pairs : List (κ × ν)} {key : κ} (there : key ∈ pairs.map Prod.fst) :
    group pairs key ≠ [] := by
  obtain ⟨pair, member, rfl⟩ := List.mem_map.mp there
  intro empty
  rw [group, List.map_eq_nil_iff, List.filter_eq_nil_iff] at empty
  exact empty pair member (decide_eq_true rfl)

theorem mem_group {pairs : List (κ × ν)} {key : κ} {element : ν} :
    element ∈ group pairs key ↔ (key, element) ∈ pairs := by
  rw [group, List.mem_map]
  constructor
  · rintro ⟨⟨other, value⟩, member, rfl⟩
    obtain ⟨inPairs, same⟩ := List.mem_filter.mp member
    exact of_decide_eq_true same ▸ inPairs
  · intro member
    exact ⟨(key, element), List.mem_filter.mpr ⟨member, decide_eq_true rfl⟩, rfl⟩

/-- A group keeps the order of the list. -/
theorem group_sublist (pairs : List (κ × ν)) (key : κ) :
    (group pairs key).Sublist (pairs.map Prod.snd) := List.filter_sublist.map Prod.snd

/-- The pairs of some distinct keys, key by key. -/
theorem perm_flatMap_filter {keys : List κ} {pairs : List (κ × ν)} (distinct : keys.Nodup)
    (covers : ∀ pair ∈ pairs, pair.1 ∈ keys) :
    (keys.flatMap fun key => pairs.filter fun pair => pair.1 = key).Perm pairs := by
  induction keys generalizing pairs with
  | nil =>
    cases pairs with
    | nil => exact List.Perm.refl _
    | cons pair _ => cases covers pair List.mem_cons_self
  | cons first keys ih =>
    obtain ⟨fresh, distinct⟩ := List.nodup_cons.mp distinct
    have fewer : ∀ pair ∈ pairs.filter (fun pair => pair.1 ≠ first), pair.1 ∈ keys := by
      intro pair member
      obtain ⟨inPairs, different⟩ := List.mem_filter.mp member
      exact (List.mem_cons.mp (covers pair inPairs)).resolve_left (of_decide_eq_true different)
    have others := ih distinct fewer
    have same : (keys.flatMap fun key => pairs.filter fun pair => pair.1 = key) =
        keys.flatMap fun key =>
          (pairs.filter fun pair => pair.1 ≠ first).filter fun pair => pair.1 = key := by
      refine List.flatMap_congr fun key member => ?_
      rw [List.filter_filter]
      refine List.filter_congr fun pair _ => ?_
      by_cases here : pair.1 = key
      · have different : key ≠ first := fun same => fresh (same ▸ member)
        simp [here, different]
      · simp [here]
    rw [List.flatMap_cons, same]
    refine (others.append_left _).trans ?_
    simpa using List.filter_append_perm (fun pair : κ × ν => decide (pair.1 = first)) pairs

/-- The groups hold the elements of the list, each once. -/
theorem perm_flatten_groups (pairs : List (κ × ν)) :
    ((firsts (pairs.map Prod.fst)).map (group pairs)).flatten.Perm (pairs.map Prod.snd) := by
  have covers : ∀ pair ∈ pairs, pair.1 ∈ firsts (pairs.map Prod.fst) := fun pair member =>
    mem_firsts.mpr (List.mem_map_of_mem member)
  have together := (perm_flatMap_filter (nodup_firsts _) covers).map Prod.snd
  rw [List.map_flatMap] at together
  rw [← List.flatMap_def]
  exact together

/-- **The groups are in the order of their first elements.** -/
theorem heads_sublist (pairs : List (κ × ν)) :
    ((firsts (pairs.map Prod.fst)).filterMap fun key => (group pairs key).head?).Sublist
      (pairs.map Prod.snd) := by
  induction pairs using List.reverseRecOn with
  | nil => exact List.Sublist.refl _
  | append_singleton pairs pair ih =>
    rw [List.map_append, List.map_append, List.map_singleton, List.map_singleton, firsts_concat]
    have old : ((firsts (pairs.map Prod.fst)).filterMap fun key => (group (pairs ++ [pair]) key).head?) =
        (firsts (pairs.map Prod.fst)).filterMap fun key => (group pairs key).head? := by
      refine List.filterMap_congr fun key member => ?_
      rw [group_concat]
      split
      · rw [List.head?_append_of_ne_nil _ (group_ne_nil (mem_firsts.mp member))]
      · rfl
    split
    · rw [old]
      exact ih.trans (List.sublist_append_left _ _)
    · rename_i fresh
      rw [mem_firsts] at fresh
      rw [List.filterMap_append, old, List.filterMap_cons, group_concat, if_pos rfl, group_eq_nil fresh]
      exact ih.append (List.Sublist.refl _)

end Grouping
