import TaskPlan.Order.SortedSet

/-!
# Finite maps in ascending order of keys

`KeyMap α` keeps one value for each of finitely many texts, in ascending order of
the texts, so that maps with the same look-ups are equal values
(`KeyMap.ext_get?`). `get?_insert`, `get?_erase`, `get?_filter` and `get?_map` say
what each operation does to look-ups.
-/

namespace TaskPlan

open Std

structure KeyMap (α : Type u) where
  toList : List (String × α)
  ascending : toList.Pairwise (fun a b => compare a.1 b.1 = .lt)

namespace KeyMap

variable {α : Type u} {β : Type v}

instance [DecidableEq α] : DecidableEq (KeyMap α) := fun s t =>
  decidable_of_iff (s.toList = t.toList) ⟨fun h => by cases s; cases t; simp_all, fun h => h ▸ rfl⟩

def empty : KeyMap α := ⟨[], .nil⟩

instance : Inhabited (KeyMap α) := ⟨empty⟩

def find : List (String × α) → String → Option α
  | [], _ => none
  | (k, v) :: rest, key => if k = key then some v else find rest key

def get? (m : KeyMap α) (key : String) : Option α := find m.toList key

def contains (m : KeyMap α) (key : String) : Bool := (m.get? key).isSome

def keys (m : KeyMap α) : List String := m.toList.map Prod.fst

def values (m : KeyMap α) : List α := m.toList.map Prod.snd

def size (m : KeyMap α) : Nat := m.toList.length

@[simp] theorem get?_empty (key : String) : (empty : KeyMap α).get? key = none := rfl

/-- An entry put in its place, instead of the one its key had. -/
def place (key : String) (value : α) : List (String × α) → List (String × α)
  | [] => [(key, value)]
  | (k, v) :: rest =>
    match compare key k with
    | .lt => (key, value) :: (k, v) :: rest
    | .eq => (key, value) :: rest
    | .gt => (k, v) :: place key value rest

theorem mem_place {key : String} {value : α} {entry : String × α} {entries : List (String × α)}
    (h : entry ∈ place key value entries) : entry = (key, value) ∨ entry ∈ entries := by
  induction entries with
  | nil => simpa [place] using h
  | cons first rest ih =>
    obtain ⟨k, v⟩ := first
    simp only [place] at h
    split at h
    · simpa using h
    · rcases List.mem_cons.mp h with h | h
      · exact .inl h
      · exact .inr (List.mem_cons_of_mem _ h)
    · rcases List.mem_cons.mp h with h | h
      · exact .inr (h ▸ List.mem_cons_self)
      · rcases ih h with h | h
        · exact .inl h
        · exact .inr (List.mem_cons_of_mem _ h)

theorem place_ascending (key : String) (value : α) {entries : List (String × α)}
    (ascending : entries.Pairwise (fun a b => compare a.1 b.1 = .lt)) :
    (place key value entries).Pairwise (fun a b => compare a.1 b.1 = .lt) := by
  induction entries with
  | nil => simp [place]
  | cons first rest ih =>
    obtain ⟨k, v⟩ := first
    obtain ⟨before, later⟩ := List.pairwise_cons.mp ascending
    simp only [place]
    split
    · rename_i less
      refine List.pairwise_cons.mpr ⟨?_, ascending⟩
      intro entry member
      rcases List.mem_cons.mp member with rfl | member
      · exact less
      · exact TransCmp.lt_trans less (before entry member)
    · rename_i same
      have : key = k := LawfulEqOrd.eq_of_compare same
      subst this
      exact List.pairwise_cons.mpr ⟨before, later⟩
    · rename_i greater
      refine List.pairwise_cons.mpr ⟨?_, ih later⟩
      intro entry member
      rcases mem_place member with rfl | member
      · exact OrientedCmp.gt_iff_lt.mp greater
      · exact before entry member

theorem find_place (key other : String) (value : α) (entries : List (String × α)) :
    find (place key value entries) other = if key = other then some value else find entries other := by
  induction entries with
  | nil => simp [place, find]
  | cons first rest ih =>
    obtain ⟨k, v⟩ := first
    simp only [place]
    split
    · simp [find]
    · rename_i same
      have : key = k := LawfulEqOrd.eq_of_compare same
      subst this
      by_cases found : key = other <;> simp [find, found]
    · rename_i greater
      by_cases found : k = other
      · subst found
        have : key ≠ k := by
          rintro rfl
          simp [ReflCmp.compare_self] at greater
        simp [find, this]
      · simp [find, found, ih]

def insert (m : KeyMap α) (key : String) (value : α) : KeyMap α :=
  ⟨place key value m.toList, place_ascending key value m.ascending⟩

theorem get?_insert (m : KeyMap α) (key other : String) (value : α) :
    (m.insert key value).get? other = if key = other then some value else m.get? other :=
  find_place key other value m.toList

def ofList (entries : List (String × α)) : KeyMap α :=
  entries.foldl (fun m entry => m.insert entry.1 entry.2) empty

def filter (p : String → α → Bool) (m : KeyMap α) : KeyMap α :=
  ⟨m.toList.filter (fun entry => p entry.1 entry.2), m.ascending.filter _⟩

def erase (m : KeyMap α) (key : String) : KeyMap α := m.filter (fun k _ => k != key)

def map (f : String → α → β) (m : KeyMap α) : KeyMap β :=
  ⟨m.toList.map (fun entry => (entry.1, f entry.1 entry.2)),
    List.pairwise_map.mpr m.ascending⟩

theorem find_eq_some_of_mem {key : String} {value : α} {entries : List (String × α)}
    (ascending : entries.Pairwise (fun a b => compare a.1 b.1 = .lt))
    (member : (key, value) ∈ entries) : find entries key = some value := by
  induction entries with
  | nil => exact absurd member List.not_mem_nil
  | cons first rest ih =>
    obtain ⟨k, v⟩ := first
    obtain ⟨before, later⟩ := List.pairwise_cons.mp ascending
    rcases List.mem_cons.mp member with same | member
    · cases same
      simp [find]
    · have : k ≠ key := by
        rintro rfl
        have := before _ member
        simp [ReflCmp.compare_self] at this
      simp [find, this, ih later member]

theorem mem_of_find_eq_some {key : String} {value : α} {entries : List (String × α)}
    (h : find entries key = some value) : (key, value) ∈ entries := by
  induction entries with
  | nil => simp [find] at h
  | cons first rest ih =>
    obtain ⟨k, v⟩ := first
    simp only [find] at h
    split at h
    · rename_i same
      simp_all
    · exact List.mem_cons_of_mem _ (ih h)

theorem mem_toList_iff {m : KeyMap α} {key : String} {value : α} :
    (key, value) ∈ m.toList ↔ m.get? key = some value :=
  ⟨find_eq_some_of_mem m.ascending, mem_of_find_eq_some⟩

theorem get?_filter (p : String → α → Bool) (m : KeyMap α) (key : String) :
    (m.filter p).get? key = (m.get? key).filter (p key) := by
  apply Option.ext
  intro value
  rw [← mem_toList_iff, Option.filter_eq_some_iff, ← mem_toList_iff]
  simp [filter]

theorem get?_erase (m : KeyMap α) (key other : String) :
    (m.erase key).get? other = if key = other then none else m.get? other := by
  rw [erase, get?_filter]
  by_cases same : key = other
  · subst same
    cases h : m.get? key <;> simp [Option.filter]
  · have : (other != key) = true := by simpa using Ne.symm same
    cases h : m.get? other <;> simp [Option.filter, this, same]

theorem get?_map (f : String → α → β) (m : KeyMap α) (key : String) :
    (m.map f).get? key = (m.get? key).map (f key) := by
  cases m with
  | mk entries ascending =>
    simp only [get?, map]
    clear ascending
    induction entries with
    | nil => rfl
    | cons first rest ih =>
      obtain ⟨k, v⟩ := first
      simp only [List.map_cons, find]
      split
      · rename_i same
        simp [same]
      · exact ih

theorem eq_of_find_eq {l m : List (String × α)}
    (hl : l.Pairwise (fun a b => compare a.1 b.1 = .lt))
    (hm : m.Pairwise (fun a b => compare a.1 b.1 = .lt))
    (h : ∀ key, find l key = find m key) : l = m := by
  have members (entry : String × α) : entry ∈ l ↔ entry ∈ m := by
    constructor <;> intro member
    · exact mem_of_find_eq_some ((h entry.1).symm.trans (find_eq_some_of_mem hl member))
    · exact mem_of_find_eq_some ((h entry.1).trans (find_eq_some_of_mem hm member))
  clear h
  induction l generalizing m with
  | nil =>
    cases m with
    | nil => rfl
    | cons b rest => exact absurd ((members b).mpr List.mem_cons_self) List.not_mem_nil
  | cons a l ih =>
    cases m with
    | nil => exact absurd ((members a).mp List.mem_cons_self) List.not_mem_nil
    | cons b m =>
      obtain ⟨firstL, laterL⟩ := List.pairwise_cons.mp hl
      obtain ⟨firstM, laterM⟩ := List.pairwise_cons.mp hm
      have same : a = b := by
        rcases List.mem_cons.mp ((members a).mp List.mem_cons_self) with eq | inM
        · exact eq
        · rcases List.mem_cons.mp ((members b).mpr List.mem_cons_self) with eq | inL
          · exact eq.symm
          · have := TransCmp.lt_trans (firstL b inL) (firstM a inM)
            simp [ReflCmp.compare_self] at this
      subst same
      refine congrArg (a :: ·) (ih laterL laterM fun c => ?_)
      have := members c
      simp only [List.mem_cons] at this
      constructor
      · intro inL
        rcases this.mp (.inr inL) with rfl | inM
        · have := firstL c inL
          simp [ReflCmp.compare_self] at this
        · exact inM
      · intro inM
        rcases this.mpr (.inr inM) with rfl | inL
        · have := firstM c inM
          simp [ReflCmp.compare_self] at this
        · exact inL

theorem ext_get? {m n : KeyMap α} (h : ∀ key, m.get? key = n.get? key) : m = n := by
  cases m with
  | mk l hl =>
    cases n with
    | mk k hk =>
      have : l = k := eq_of_find_eq hl hk h
      subst this
      rfl

end KeyMap

end TaskPlan
