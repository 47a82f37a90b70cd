import Mathlib
import TaskPlan.Order.KeyMap

/-!
# Laws of finite maps and sets

What the lists behind a `KeyMap` and a `SortedSet` hold, and the look-ups of maps
made from lists: of several entries for a key the last counts (`get?_ofList`), so
that with different keys every entry can be looked up (`get?_ofList_iff`).
-/

namespace TaskPlan

open Std

namespace SortedSet

variable {α : Type u} [Ord α]

theorem nodup_toList [ReflOrd α] (s : SortedSet α) : s.toList.Nodup := by
  refine s.ascending.imp ?_
  rintro a b less rfl
  simp [ReflCmp.compare_self] at less

theorem size_ofList_le [LawfulEqOrd α] [TransOrd α] (members : List α) :
    (ofList members).size ≤ members.length :=
  ((ofList members).nodup_toList.subperm fun _ member => mem_ofList.mp member).length_le

end SortedSet

namespace KeyMap

variable {α : Type u} {β : Type v}

theorem find_append (front back : List (String × α)) (key : String) :
    find (front ++ back) key = (find front key).or (find back key) := by
  induction front with
  | nil => rfl
  | cons first rest ih =>
    obtain ⟨k, v⟩ := first
    by_cases same : k = key
    · simp [find, same]
    · simp [find, same, ih]

theorem find_eq_some_iff {entries : List (String × α)} {key : String} {value : α}
    (distinct : (entries.map Prod.fst).Nodup) :
    find entries key = some value ↔ (key, value) ∈ entries := by
  refine ⟨mem_of_find_eq_some, fun member => ?_⟩
  induction entries with
  | nil => exact absurd member List.not_mem_nil
  | cons first rest ih =>
    obtain ⟨k, v⟩ := first
    obtain ⟨fresh, distinct⟩ := List.nodup_cons.mp distinct
    rcases List.mem_cons.mp member with same | member
    · cases same
      simp [find]
    · have other : k ≠ key := by
        rintro rfl
        exact fresh (List.mem_map.mpr ⟨_, member, rfl⟩)
      simp [find, other, ih distinct member]

theorem find_perm {entries others : List (String × α)} (perm : entries.Perm others)
    (distinct : (entries.map Prod.fst).Nodup) (key : String) :
    find entries key = find others key := by
  apply Option.ext
  intro value
  rw [find_eq_some_iff distinct, find_eq_some_iff ((perm.map Prod.fst).nodup_iff.mp distinct)]
  exact perm.mem_iff

theorem exists_find_eq_some {entries : List (String × α)} {entry : String × α}
    (member : entry ∈ entries) : ∃ value, find entries entry.1 = some value := by
  induction entries with
  | nil => cases member
  | cons first rest ih =>
    by_cases same : first.1 = entry.1
    · exact ⟨first.2, if_pos same⟩
    · rcases List.mem_cons.mp member with rfl | member
      · exact absurd rfl same
      · obtain ⟨value, found⟩ := ih member
        exact ⟨value, (if_neg same).trans found⟩

/-- Entries whose values depend on the keys alone. -/
theorem find_filterMap_labelled (f : String → Option α) (labels : List String) (key : String) :
    find (labels.filterMap fun label => (f label).map fun value => (label, value)) key =
      if key ∈ labels then f key else none := by
  induction labels with
  | nil => rfl
  | cons label rest ih =>
    by_cases same : label = key
    · subst same
      cases value : f label with
      | none => simp [value, ih]
      | some _ => simp [value, find]
    · cases value : f label with
      | none => simp [value, ih, Ne.symm same]
      | some _ => simp [value, find, ih, same, Ne.symm same]

/-! ### Keys -/

theorem keys_nodup (m : KeyMap α) : m.keys.Nodup := by
  refine List.pairwise_map.mpr (m.ascending.imp ?_)
  rintro a b less same
  rw [same] at less
  simp [ReflCmp.compare_self] at less

theorem contains_iff {m : KeyMap α} {key : String} :
    m.contains key = true ↔ ∃ value, m.get? key = some value := Option.isSome_iff_exists

theorem mem_keys {m : KeyMap α} {key : String} : key ∈ m.keys ↔ m.contains key = true := by
  constructor
  · intro member
    obtain ⟨⟨k, v⟩, present, rfl⟩ := List.mem_map.mp member
    exact contains_iff.mpr ⟨v, mem_toList_iff.mp present⟩
  · intro found
    obtain ⟨value, found⟩ := contains_iff.mp found
    exact List.mem_map.mpr ⟨(key, value), mem_toList_iff.mpr found, rfl⟩

theorem mem_keys_iff {m : KeyMap α} {key : String} :
    key ∈ m.keys ↔ ∃ value, m.get? key = some value := mem_keys.trans contains_iff

/-- Maps with the same keys have them in the same order. -/
theorem keys_eq {m : KeyMap α} {n : KeyMap β} (same : ∀ key, key ∈ m.keys ↔ key ∈ n.keys) :
    m.keys = n.keys :=
  SortedSet.eq_of_mem_iff (List.pairwise_map.mpr m.ascending) (List.pairwise_map.mpr n.ascending) same

theorem mem_values {m : KeyMap α} {value : α} :
    value ∈ m.values ↔ ∃ key, m.get? key = some value := by
  simp only [values, List.mem_map, Prod.exists, mem_toList_iff]
  constructor
  · rintro ⟨key, _, found, rfl⟩
    exact ⟨key, found⟩
  · rintro ⟨key, found⟩
    exact ⟨key, value, found, rfl⟩

theorem get?_filter_keys (p : String → Bool) (m : KeyMap α) (key : String) :
    (m.filter fun k _ => p k).get? key = if p key then m.get? key else none := by
  rw [get?_filter]
  cases m.get? key <;> cases p key <;> rfl

theorem eq_empty_iff {m : KeyMap α} : m = empty ↔ ∀ key, m.get? key = none := by
  constructor
  · rintro rfl key
    rfl
  · intro none
    exact ext_get? none

/-! ### Maps made from lists -/

theorem get?_foldl_insert (entries : List (String × α)) (m : KeyMap α) (key : String) :
    (entries.foldl (fun m entry => m.insert entry.1 entry.2) m).get? key =
      (find entries.reverse key).or (m.get? key) := by
  induction entries generalizing m with
  | nil => rfl
  | cons first rest ih =>
    obtain ⟨k, v⟩ := first
    rw [List.foldl_cons, ih, get?_insert, List.reverse_cons, find_append]
    by_cases same : k = key
    · cases find rest.reverse key <;> simp [find, same]
    · cases find rest.reverse key <;> simp [find, same]

/-- Of several entries for a key the last one counts. -/
theorem get?_ofList (entries : List (String × α)) (key : String) :
    (ofList entries).get? key = find entries.reverse key := by
  rw [ofList, get?_foldl_insert, get?_empty, Option.or_none]

theorem get?_ofList_of_distinct {entries : List (String × α)} (distinct : (entries.map Prod.fst).Nodup)
    (key : String) : (ofList entries).get? key = find entries key := by
  rw [get?_ofList]
  exact (find_perm (List.reverse_perm entries).symm distinct key).symm

/-- The entries of a map made from a list with different keys are those of the list. -/
theorem get?_ofList_iff {entries : List (String × α)} {key : String} {value : α}
    (distinct : (entries.map Prod.fst).Nodup) :
    (ofList entries).get? key = some value ↔ (key, value) ∈ entries := by
  rw [get?_ofList_of_distinct distinct, find_eq_some_iff distinct]

theorem get?_ofList_filterMap_labelled (f : String → Option α) (labels : List String) (key : String) :
    (ofList (labels.filterMap fun label => (f label).map fun value => (label, value))).get? key =
      if key ∈ labels then f key else none := by
  rw [get?_ofList, ← List.filterMap_reverse, find_filterMap_labelled]
  simp only [List.mem_reverse]

theorem get?_ofList_labelled (f : String → α) (labels : List String) (key : String) :
    (ofList (labels.map fun label => (label, f label))).get? key =
      if key ∈ labels then some (f key) else none := by
  rw [← get?_ofList_filterMap_labelled (fun label => some (f label)), ← List.filterMap_eq_map]
  rfl

theorem get?_ofList_toList (m : KeyMap α) (key : String) : (ofList m.toList).get? key = m.get? key :=
  get?_ofList_of_distinct m.keys_nodup key

theorem get?_ofList_append (front back : List (String × α)) (key : String) :
    (ofList (front ++ back)).get? key = ((ofList back).get? key).or ((ofList front).get? key) := by
  rw [get?_ofList, List.reverse_append, find_append, get?_ofList, get?_ofList]

theorem mem_keys_ofList {entries : List (String × α)} {key : String} :
    key ∈ (ofList entries).keys ↔ key ∈ entries.map Prod.fst := by
  rw [mem_keys_iff, get?_ofList]
  constructor
  · rintro ⟨value, found⟩
    exact List.mem_map.mpr ⟨_, List.mem_reverse.mp (mem_of_find_eq_some found), rfl⟩
  · intro member
    obtain ⟨entry, present, rfl⟩ := List.mem_map.mp member
    exact exists_find_eq_some (List.mem_reverse.mpr present)

/-- A map has as many keys as the list it is made from exactly if no key repeats there. -/
theorem size_ofList_iff {entries : List (String × α)} :
    (ofList entries).size = entries.length ↔ (entries.map Prod.fst).Nodup := by
  have sizes : (ofList entries).size = (ofList entries).keys.length := (List.length_map _).symm
  have lengths : entries.length = (entries.map Prod.fst).length := (List.length_map _).symm
  have among : (ofList entries).keys.Subperm (entries.map Prod.fst) :=
    (keys_nodup _).subperm fun _ member => mem_keys_ofList.mp member
  rw [sizes, lengths]
  constructor
  · intro same
    exact (among.perm_of_length_le (Nat.le_of_eq same.symm)).nodup_iff.mp (keys_nodup _)
  · intro distinct
    exact ((List.perm_ext_iff_of_nodup (keys_nodup _) distinct).mpr fun _ => mem_keys_ofList).length_eq

/-- A map with its values changed or left out. -/
theorem get?_ofList_filterMap (f : α → Option β) (m : KeyMap α) (key : String) :
    (ofList (m.toList.filterMap fun entry => (f entry.2).map fun value => (entry.1, value))).get? key =
      (m.get? key).bind f := by
  have distinct : ((m.toList.filterMap fun entry =>
      (f entry.2).map fun value => (entry.1, value)).map Prod.fst).Nodup := by
    refine List.pairwise_map.mpr (List.Pairwise.filterMap _ ?_ (List.pairwise_map.mp m.keys_nodup))
    intro a a' other b found b' found'
    obtain ⟨_, -, rfl⟩ := Option.map_eq_some_iff.mp found
    obtain ⟨_, -, rfl⟩ := Option.map_eq_some_iff.mp found'
    exact other
  apply Option.ext
  intro value
  simp only [get?_ofList_iff distinct, List.mem_filterMap, Prod.exists, mem_toList_iff,
    Option.map_eq_some_iff, Prod.mk.injEq, Option.bind_eq_some_iff]
  constructor
  · rintro ⟨_, old, found, _, changed, rfl, rfl⟩
    exact ⟨old, found, changed⟩
  · rintro ⟨old, found, changed⟩
    exact ⟨key, old, found, value, changed, rfl, rfl⟩

end KeyMap

end TaskPlan
