import TaskPlan.Proofs.Json.Fields

/-!
# Reading and writing at paths

What is set at a path of keys is read there again (`getAt_setAt`), and nothing changes at
paths of which none leads over the other (`getAt_setAt_apart`). A path at which there is a
value can be set (`exists_setAt`), and two such paths may be set in any order
(`setAt_comm`). A path that is set again has what was set last (`setAt_setAt`).
-/

namespace TaskPlan

theorem segments_ne_nil (path : String) : segments path ≠ [] := by
  simp [segments, Text.splitOn, Text.pieces_ne_nil]

/-- Neither path leads over the end of the other. -/
def Apart (path other : List String) : Prop := ¬ path <+: other ∧ ¬ other <+: path

instance (path other : List String) : Decidable (Apart path other) := inferInstanceAs (Decidable (_ ∧ _))

theorem Apart.symm {path other : List String} (apart : Apart path other) : Apart other path :=
  ⟨apart.2, apart.1⟩

theorem Apart.tail {key : String} {path other : List String} (apart : Apart (key :: path) (key :: other)) :
    Apart path other := by
  constructor
  · exact fun leads => apart.1 (List.cons_prefix_cons.mpr ⟨rfl, leads⟩)
  · exact fun leads => apart.2 (List.cons_prefix_cons.mpr ⟨rfl, leads⟩)

namespace Fields

variable {fields others updated : Fields} {key other : String} {path places : List String}
  {value result : Json}

theorem getAt_congr (same : fields.get? key = others.get? key) (path : List String) :
    fields.getAt (key :: path) = others.getAt (key :: path) := by
  cases path with
  | nil => exact same
  | cons next path => rw [getAt_cons_cons, getAt_cons_cons, same]

/-- A place below an entry is read in the mapping there. -/
theorem getAt_inside {inner : Fields} (found : fields.get? key = some (.obj inner)) (place : path ≠ []) :
    fields.getAt (key :: path) = inner.getAt path := by
  cases path with
  | nil => exact absurd rfl place
  | cons next path =>
    rw [getAt_cons_cons, found]
    rfl

/-! ### Steps of a write -/

/-- A write sets the entry of the first key: to the value at the end of the path, and before
it to what is written in the mapping there. -/
theorem setAt_cons (set : fields.setAt (key :: path) value = some updated) :
    (path = [] ∧ updated = fields.insert key value) ∨
      (path ≠ [] ∧ ∃ inner changed : Fields, fields.get? key = some (.obj inner) ∧
        inner.setAt path value = some changed ∧ updated = fields.insert key (.obj changed)) := by
  cases path with
  | nil =>
    cases set
    exact .inl ⟨rfl, rfl⟩
  | cons next path =>
    rw [setAt_cons_cons] at set
    obtain ⟨inner, found, set⟩ := Option.bind_eq_some_iff.mp set
    obtain ⟨changed, written, rfl⟩ := Option.map_eq_some_iff.mp set
    exact .inr ⟨by simp, inner, changed, obj_iff.mp found, written, rfl⟩

theorem setAt_inside {inner changed : Fields} (found : fields.get? key = some (.obj inner))
    (set : inner.setAt path value = some changed) :
    fields.setAt (key :: path) value = some (fields.insert key (.obj changed)) := by
  cases path with
  | nil => cases set
  | cons next path =>
    rw [setAt_cons_cons, found]
    simp [Json.obj?, set]

/-- A write at a place below an entry is done in the mapping there, if there is one. -/
theorem setAt_below (place : path ≠ []) :
    fields.setAt (key :: path) value = ((fields.get? key).bind Json.obj?).bind fun inner =>
      (inner.setAt path value).map fun changed => fields.insert key (.obj changed) := by
  obtain ⟨next, path, rfl⟩ := List.exists_cons_of_ne_nil place
  exact setAt_cons_cons key next path

/-- A write depends on the entry of the first key only. -/
theorem setAt_entry (set : fields.setAt (key :: path) value = some updated) :
    ∃ entry, updated = fields.insert key entry ∧ ∀ {others : Fields}, others.get? key = fields.get? key →
      others.setAt (key :: path) value = some (others.insert key entry) := by
  rcases setAt_cons set with ⟨rfl, rfl⟩ | ⟨-, inner, changed, found, written, rfl⟩
  · exact ⟨value, rfl, fun _ => rfl⟩
  · exact ⟨.obj changed, rfl, fun same => setAt_inside (same.trans found) written⟩

theorem exists_setAt (found : fields.getAt path = some value) (result : Json) :
    ∃ updated, fields.setAt path result = some updated := by
  induction path generalizing fields with
  | nil => cases found
  | cons key rest ih =>
    cases rest with
    | nil => exact ⟨_, rfl⟩
    | cons next rest =>
      obtain ⟨inner, here, found⟩ := getAt_inside_iff.mp found
      obtain ⟨changed, set⟩ := ih found
      exact ⟨_, setAt_inside here set⟩

/-! ### What is read after a write -/

theorem getAt_setAt (set : fields.setAt path value = some updated) : updated.getAt path = some value := by
  induction path generalizing fields updated with
  | nil => cases set
  | cons key rest ih =>
    rcases setAt_cons set with ⟨rfl, rfl⟩ | ⟨place, inner, changed, -, written, rfl⟩
    · rw [getAt, get?_insert, if_pos rfl]
    · rw [getAt_inside (by rw [get?_insert, if_pos rfl]) place, ih written]

theorem getAt_setAt_apart (set : fields.setAt path value = some updated) (apart : Apart path places) :
    updated.getAt places = fields.getAt places := by
  induction path generalizing fields updated places with
  | nil => cases set
  | cons key rest ih =>
    cases places with
    | nil => exact absurd List.nil_prefix apart.2
    | cons other places =>
      by_cases same : key = other
      · subst same
        have below : places ≠ [] := by
          rintro rfl
          exact apart.2 (List.cons_prefix_cons.mpr ⟨rfl, List.nil_prefix⟩)
        rcases setAt_cons set with ⟨rfl, -⟩ | ⟨-, inner, changed, found, written, rfl⟩
        · exact absurd (List.cons_prefix_cons.mpr ⟨rfl, List.nil_prefix⟩) apart.1
        · rw [getAt_inside (by rw [get?_insert, if_pos rfl]) below, getAt_inside found below,
            ih written apart.tail]
      · refine getAt_congr ?_ places
        rcases setAt_cons set with ⟨-, rfl⟩ | ⟨-, inner, changed, -, -, rfl⟩ <;>
          rw [get?_insert, if_neg same]

/-- Setting what is there changes nothing. -/
theorem setAt_getAt (found : fields.getAt path = some value) : fields.setAt path value = some fields := by
  induction path generalizing fields with
  | nil => cases found
  | cons key rest ih =>
    cases rest with
    | nil => exact congrArg some (insert_get? found)
    | cons next rest =>
      obtain ⟨inner, here, found⟩ := getAt_inside_iff.mp found
      rw [setAt_inside here (ih found), insert_get? here]

/-! ### Writes in any order -/

theorem insert_insert (fields : Fields) (key : String) (value result : Json) :
    Fields.insert (fields.insert key value) key result = fields.insert key result := by
  induction fields with
  | nil => simp [insert]
  | cons entry rest ih =>
    obtain ⟨k, v⟩ := entry
    by_cases same : k = key
    · simp [insert, same]
    · simp [insert, same, ih]

/-- An entry that is there keeps its place, so that others may be set before or after. -/
theorem insert_comm (present : fields.contains key = true) (different : key ≠ other) :
    Fields.insert (fields.insert key value) other result =
      Fields.insert (fields.insert other result) key value := by
  induction fields with
  | nil => cases present
  | cons entry rest ih =>
    obtain ⟨k, v⟩ := entry
    by_cases here : k = key
    · subst here
      simp [insert, different]
    · have later : Fields.contains rest key = true := by simpa [contains, get?, here] using present
      by_cases there : k = other
      · subst there
        simp [insert, here]
      · simp [insert, here, there, ih later]

/-- A place that is set twice has what was set last. -/
theorem setAt_setAt (set : fields.setAt path value = some updated) (result : Json) :
    updated.setAt path result = fields.setAt path result := by
  induction path generalizing fields updated with
  | nil => cases set
  | cons key rest ih =>
    rcases setAt_cons set with ⟨rfl, rfl⟩ | ⟨place, inner, changed, found, written, rfl⟩
    · exact congrArg some (insert_insert fields key value result)
    · have again := ih written
      rw [setAt_below place, setAt_below place, get?_insert, if_pos rfl, found]
      simp only [Option.bind_some, Json.obj?, again, insert_insert]

theorem contains_of_getAt (found : fields.getAt (key :: path) = some value) : fields.contains key = true := by
  cases path with
  | nil =>
    rw [getAt] at found
    rw [contains, found, Option.isSome_some]
  | cons next path =>
    obtain ⟨inner, here, -⟩ := getAt_inside_iff.mp found
    rw [contains, here, Option.isSome_some]

theorem setAt_comm {first second : Fields} {before : Json} (found : fields.getAt path = some before)
    (apart : Apart path places) (here : fields.setAt path value = some first)
    (there : fields.setAt places result = some second) :
    ∃ both, first.setAt places result = some both ∧ second.setAt path value = some both := by
  induction path generalizing fields first second places with
  | nil => cases here
  | cons key rest ih =>
    cases places with
    | nil => cases there
    | cons other places =>
      by_cases same : key = other
      · subst same
        rcases setAt_cons here with ⟨rfl, -⟩ | ⟨place, inner, changed, entry, written, rfl⟩
        · exact absurd (List.cons_prefix_cons.mpr ⟨rfl, List.nil_prefix⟩) apart.1
        rcases setAt_cons there with ⟨rfl, -⟩ | ⟨-, inner', changed', entry', written', rfl⟩
        · exact absurd (List.cons_prefix_cons.mpr ⟨rfl, List.nil_prefix⟩) apart.2
        cases entry.symm.trans entry'
        rw [getAt_inside entry place] at found
        obtain ⟨both, first, second⟩ := ih found apart.tail written written'
        refine ⟨fields.insert key (.obj both), ?_, ?_⟩
        · rw [setAt_inside (by rw [get?_insert, if_pos rfl]) first, insert_insert]
        · rw [setAt_inside (by rw [get?_insert, if_pos rfl]) second, insert_insert]
      · obtain ⟨entry, rfl, written⟩ := setAt_entry here
        obtain ⟨entry', rfl, written'⟩ := setAt_entry there
        refine ⟨Fields.insert (fields.insert key entry) other entry', ?_, ?_⟩
        · exact written' (by rw [get?_insert, if_neg same])
        · rw [insert_comm (contains_of_getAt found) same]
          exact written (by rw [get?_insert, if_neg (Ne.symm same)])

end Fields

/-! ### Jobs -/

namespace Job

variable {job updated : Job} {path other : String} {value : Json}

theorem getPath_setPath (set : job.setPath path value = some updated) : updated.getPath path = some value := by
  obtain ⟨fields, written, rfl⟩ := Option.map_eq_some_iff.mp set
  exact Fields.getAt_setAt written

theorem getPath_setPath_apart (set : job.setPath path value = some updated)
    (apart : Apart (segments path) (segments other)) : updated.getPath other = job.getPath other := by
  obtain ⟨fields, written, rfl⟩ := Option.map_eq_some_iff.mp set
  exact Fields.getAt_setAt_apart written apart

theorem setPath_getPath (found : job.getPath path = some value) : job.setPath path value = some job := by
  rw [setPath, Fields.setAt_getAt found, Option.map_some]

/-- A path that leads to a value can be set. -/
theorem exists_setPath (found : job.getPath path = some value) (result : Json) :
    ∃ updated, job.setPath path result = some updated := by
  obtain ⟨fields, written⟩ := Fields.exists_setAt found result
  exact ⟨⟨fields⟩, by rw [setPath, written, Option.map_some]⟩

/-- A path that is set twice has what was set last. -/
theorem setPath_setPath (set : job.setPath path value = some updated) (result : Json) :
    updated.setPath path result = job.setPath path result := by
  obtain ⟨fields, written, rfl⟩ := Option.map_eq_some_iff.mp set
  rw [setPath, setPath, Fields.setAt_setAt written]

theorem setPath_comm {first second : Job} {before result : Json} (found : job.getPath path = some before)
    (apart : Apart (segments path) (segments other)) (here : job.setPath path value = some first)
    (there : job.setPath other result = some second) :
    ∃ both, first.setPath other result = some both ∧ second.setPath path value = some both := by
  obtain ⟨one, written, rfl⟩ := Option.map_eq_some_iff.mp here
  obtain ⟨two, written', rfl⟩ := Option.map_eq_some_iff.mp there
  obtain ⟨both, first, second⟩ := Fields.setAt_comm found apart written written'
  exact ⟨⟨both⟩, by rw [setPath, first, Option.map_some], by rw [setPath, second, Option.map_some]⟩

end Job

end TaskPlan
