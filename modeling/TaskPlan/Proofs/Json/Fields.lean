import Mathlib
import TaskPlan.Job

/-!
# Entries of mappings

With different keys the entries of a mapping are what is looked up (`mem_iff_get?`). Places
in mappings inside are read and set key by key (`getAt_cons_cons`, `setAt_cons_cons`). A
mapping may be given by entries in which a key repeats: `Fields.ofList` leaves one of them
for each key, and entries with different keys as they are (`ofList_of_nodup`).
-/

namespace TaskPlan

namespace Fields

variable {fields entries : Fields} {key other : String} {value : Json}

theorem contains_iff_mem_keys : fields.contains key = true ↔ key ∈ fields.keys := by
  induction fields with
  | nil => simp [contains, keys]
  | cons entry rest ih =>
    obtain ⟨k, v⟩ := entry
    simp only [contains, keys] at ih
    by_cases same : k = key
    · simp [contains, get?, keys, same]
    · simp [contains, get?, keys, same, ih, Ne.symm same]

theorem mem_of_get? (found : fields.get? key = some value) : (key, value) ∈ fields := by
  induction fields with
  | nil => cases found
  | cons entry rest ih =>
    obtain ⟨k, v⟩ := entry
    rw [get?] at found
    split at found
    · rename_i same
      cases same
      cases found
      exact List.mem_cons_self
    · exact List.mem_cons_of_mem _ (ih found)

theorem mem_iff_get? (distinct : fields.keys.Nodup) :
    (key, value) ∈ fields ↔ fields.get? key = some value := by
  refine ⟨fun member => ?_, mem_of_get?⟩
  induction fields with
  | nil => cases member
  | cons entry rest ih =>
    obtain ⟨k, v⟩ := entry
    obtain ⟨fresh, distinct⟩ := List.nodup_cons.mp distinct
    rcases List.mem_cons.mp member with same | member
    · cases same
      rw [get?, if_pos rfl]
    · have other : k ≠ key := by
        rintro rfl
        exact fresh (List.mem_map.mpr ⟨_, member, rfl⟩)
      rw [get?, if_neg other]
      exact ih distinct member

theorem keys_perm (perm : fields.Perm entries) : fields.keys.Perm entries.keys := perm.map Prod.fst

/-- With different keys the order of entries does not matter. -/
theorem get?_perm (distinct : fields.keys.Nodup) (perm : fields.Perm entries) (key : String) :
    fields.get? key = entries.get? key := by
  have distinctToo : entries.keys.Nodup := (keys_perm perm).nodup_iff.mp distinct
  ext value
  rw [← mem_iff_get? distinct, ← mem_iff_get? distinctToo, perm.mem_iff]

/-! ### Insertion -/

theorem mem_insert {entry : String × Json} (member : entry ∈ fields.insert key value) :
    entry = (key, value) ∨ entry ∈ fields := by
  induction fields with
  | nil => simpa [insert] using member
  | cons first rest ih =>
    obtain ⟨k, v⟩ := first
    rw [insert] at member
    split at member
    · rename_i same
      subst same
      rcases List.mem_cons.mp member with here | later
      · exact .inl here
      · exact .inr (List.mem_cons_of_mem _ later)
    · rcases List.mem_cons.mp member with rfl | later
      · exact .inr List.mem_cons_self
      · exact (ih later).imp_right (List.mem_cons_of_mem _)

theorem mem_keys_insert : other ∈ (fields.insert key value).keys ↔ other = key ∨ other ∈ fields.keys := by
  rw [← contains_iff_mem_keys, ← contains_iff_mem_keys, contains, contains, get?_insert]
  by_cases same : key = other
  · simp [same]
  · simp [same, Ne.symm same]

theorem nodup_insert (distinct : fields.keys.Nodup) : (fields.insert key value).keys.Nodup := by
  induction fields with
  | nil => simp [insert, keys]
  | cons first rest ih =>
    obtain ⟨k, v⟩ := first
    obtain ⟨fresh, others⟩ := List.nodup_cons.mp distinct
    rw [insert]
    split
    · exact distinct
    · rename_i different
      refine List.nodup_cons.mpr ⟨fun again => ?_, ih others⟩
      rcases mem_keys_insert.mp again with same | again
      · exact different same
      · exact fresh again

/-- A key that is not among the first entries is set in the others. -/
theorem insert_append (fresh : key ∉ fields.keys) :
    Fields.insert (fields ++ entries) key value = fields ++ entries.insert key value := by
  induction fields with
  | nil => rfl
  | cons first rest ih =>
    obtain ⟨k, v⟩ := first
    obtain ⟨here, later⟩ := not_or.mp (List.mem_cons.not.mp fresh)
    rw [List.cons_append, insert, if_neg (Ne.symm here), ih later, List.cons_append]

theorem insert_fresh (fresh : key ∉ fields.keys) : fields.insert key value = fields ++ [(key, value)] := by
  have appended := @insert_append fields [] key value fresh
  rwa [List.append_nil] at appended

/-- Setting what is there changes nothing. -/
theorem insert_get? (found : fields.get? key = some value) : fields.insert key value = fields := by
  induction fields with
  | nil => cases found
  | cons first rest ih =>
    obtain ⟨k, v⟩ := first
    rw [get?] at found
    rw [insert]
    split at found
    · rename_i same
      cases found
      rw [if_pos same, same]
    · rename_i different
      rw [if_neg different, ih found]

/-! ### Places in mappings inside -/

theorem obj_iff {inner : Fields} :
    (fields.get? key).bind Json.obj? = some inner ↔ fields.get? key = some (.obj inner) := by
  constructor
  · intro mapping
    obtain ⟨found, here, object⟩ := Option.bind_eq_some_iff.mp mapping
    cases found <;> cases object
    exact here
  · intro here
    rw [here]
    rfl

theorem getAt_cons_cons (key next : String) (path : List String) :
    fields.getAt (key :: next :: path) =
      ((fields.get? key).bind Json.obj?).bind (getAt (next :: path)) := by
  rw [getAt]
  · cases fields.get? key with
    | none => rfl
    | some value => cases value <;> rfl
  · nofun

theorem getAt_inside_iff {next : String} {path : List String} :
    fields.getAt (key :: next :: path) = some value ↔
      ∃ inner : Fields, fields.get? key = some (.obj inner) ∧ inner.getAt (next :: path) = some value := by
  rw [getAt_cons_cons, Option.bind_eq_some_iff]
  exact exists_congr fun inner => and_congr_left fun _ => obj_iff

theorem setAt_cons_cons (key next : String) (path : List String) :
    fields.setAt (key :: next :: path) value =
      ((fields.get? key).bind Json.obj?).bind fun inner =>
        (setAt (next :: path) value inner).map fun inner => fields.insert key (.obj inner) := by
  rw [setAt]
  · cases fields.get? key with
    | none => rfl
    | some value => cases value <;> rfl
  · nofun

/-! ### Entries in which a key may repeat -/

/-- The mapping with entries set one after the other. -/
def insertAll (fields entries : Fields) : Fields :=
  entries.foldl (fun fields entry => insert fields entry.1 entry.2) fields

theorem insertAll_append {others : Fields} :
    insertAll fields (entries ++ others) = insertAll (insertAll fields entries) others :=
  List.foldl_append

theorem nodup_insertAll (distinct : fields.keys.Nodup) : (insertAll fields entries).keys.Nodup := by
  induction entries generalizing fields with
  | nil => exact distinct
  | cons entry rest ih => exact ih (nodup_insert distinct)

theorem mem_insertAll {entry : String × Json} (member : entry ∈ insertAll fields entries) :
    entry ∈ fields ∨ entry ∈ entries := by
  induction entries generalizing fields with
  | nil => exact .inl member
  | cons first rest ih =>
    rcases ih member with before | later
    · rcases mem_insert before with rfl | before
      · exact .inr List.mem_cons_self
      · exact .inl before
    · exact .inr (List.mem_cons_of_mem _ later)

theorem mem_keys_insertAll : key ∈ (insertAll fields entries).keys ↔ key ∈ fields.keys ∨ key ∈ entries.keys := by
  induction entries generalizing fields with
  | nil => simp [insertAll, keys]
  | cons first rest ih =>
    have parts : keys (first :: rest) = first.1 :: keys rest := rfl
    have stepped : insertAll fields (first :: rest) = insertAll (fields.insert first.1 first.2) rest := rfl
    rw [stepped, ih, mem_keys_insert, parts, List.mem_cons, or_assoc, or_left_comm]

theorem insertAll_fresh (distinct : (fields ++ entries).keys.Nodup) :
    insertAll fields entries = fields ++ entries := by
  induction entries generalizing fields with
  | nil => simp [insertAll]
  | cons entry rest ih =>
    obtain ⟨k, v⟩ := entry
    have fresh : k ∉ fields.keys := by
      rw [keys, List.map_append, List.map_cons] at distinct
      exact fun again => (List.nodup_append.mp distinct).2.2 k again k List.mem_cons_self rfl
    have stepped : insertAll fields ((k, v) :: rest) = insertAll (fields.insert k v) rest := rfl
    rw [stepped, insert_fresh fresh, ih (by simpa using distinct), List.append_assoc]
    rfl

theorem insertAll_append_left {others : Fields} (fresh : ∀ key ∈ others.keys, key ∉ fields.keys) :
    insertAll (fields ++ entries) others = fields ++ insertAll entries others := by
  induction others generalizing entries with
  | nil => rfl
  | cons first rest ih =>
    obtain ⟨here, later⟩ := List.forall_mem_cons.mp fresh
    have stepped : insertAll (fields ++ entries) (first :: rest) =
        insertAll (Fields.insert (fields ++ entries) first.1 first.2) rest := rfl
    rw [stepped, insert_append here, ih later]
    rfl

theorem nodup_ofList (entries : Fields) : (ofList entries).keys.Nodup := nodup_insertAll List.nodup_nil

theorem mem_ofList {entry : String × Json} (member : entry ∈ ofList entries) : entry ∈ entries :=
  (mem_insertAll member).resolve_left List.not_mem_nil

theorem mem_keys_ofList : key ∈ (ofList entries).keys ↔ key ∈ entries.keys :=
  mem_keys_insertAll.trans (or_iff_right List.not_mem_nil)

theorem ofList_of_nodup (distinct : entries.keys.Nodup) : ofList entries = entries :=
  insertAll_fresh distinct

/-- Entries with other keys come after those that are there. -/
theorem ofList_append (distinct : fields.keys.Nodup) (fresh : ∀ key ∈ entries.keys, key ∉ fields.keys) :
    ofList (fields ++ entries) = fields ++ ofList entries := by
  have first : insertAll [] fields = fields := ofList_of_nodup distinct
  have later := @insertAll_append_left fields [] entries fresh
  rw [List.append_nil] at later
  calc ofList (fields ++ entries) = insertAll (insertAll [] fields) entries := insertAll_append
    _ = fields ++ ofList entries := by rw [first, later]; rfl

end Fields

end TaskPlan
