import TaskPlan.Kind.Basic
import TaskPlan.Proofs.Json.Fields
import TaskPlan.Proofs.Json.Inside
import TaskPlan.Proofs.Outcome

/-!
# Values over defaults

What a value merged over another one has under a key is told by what both have there
(`get?_mergeFields`), and so is what it has at a path (`merge_at`). Its keys are those of the
lower value, then those that only the upper one has (`keys_mergeFields`); with the entries they
settle the merged value, so that merging the same again changes nothing (`merge_merge`).
-/

namespace TaskPlan

namespace Json

/-- The value at the end of the longest part of the path that leads to one. -/
def furthest : List String → Json → Json
  | [], value => value
  | key :: path, value =>
    match value.get? key with
    | some inner => furthest path inner
    | none => value

def isMapping (value : Json) : Bool := value.obj?.isSome

end Json

/-! ### Keys -/

namespace Fields

variable {fields others : Fields} {key : String} {value : Json}

theorem keys_insert (fields : Fields) (key : String) (value : Json) :
    (fields.insert key value).keys = if key ∈ fields.keys then fields.keys else fields.keys ++ [key] := by
  split
  · rename_i present
    induction fields with
    | nil => cases present
    | cons entry rest ih =>
      obtain ⟨k, v⟩ := entry
      by_cases same : k = key
      · simp [insert, keys, same]
      · have later : key ∈ Fields.keys rest := by simpa [keys, Ne.symm same] using present
        simpa [insert, keys, same] using ih later
  · rename_i fresh
    rw [insert_fresh fresh, keys, List.map_append]
    rfl

theorem get?_eq_none_iff : fields.get? key = none ↔ key ∉ fields.keys := by
  rw [← contains_iff_mem_keys, contains, Option.isSome_iff_ne_none, not_not]

/-- Mappings with the same keys in the same order are equal if their entries are. -/
theorem ext_get? (same : fields.keys = others.keys) (distinct : fields.keys.Nodup)
    (each : ∀ key, fields.get? key = others.get? key) : fields = others := by
  induction fields generalizing others with
  | nil => exact (List.map_eq_nil_iff.mp same.symm).symm
  | cons entry rest ih =>
    obtain ⟨k, v⟩ := entry
    cases others with
    | nil => cases same
    | cons entry' rest' =>
      obtain ⟨k', v'⟩ := entry'
      obtain ⟨rfl, later⟩ := List.cons.inj same
      have here : v = v' := by simpa [get?] using each k
      obtain ⟨fresh, distinct⟩ := List.nodup_cons.mp distinct
      have fresh' : k ∉ keys rest' := by
        rw [keys, ← later]
        exact fresh
      rw [here, ih later distinct fun key => ?_]
      by_cases first : k = key
      · subst first
        rw [get?_eq_none_iff.mpr fresh, get?_eq_none_iff.mpr fresh']
      · simpa [get?, first] using each key

end Fields

namespace Json

variable {base overlay value : Json} {fields entries : Fields} {key : String} {path : List String}

/-! ### One level -/

theorem merge_of_leaf (leaf : overlay.obj? = none) : merge base overlay = overlay := by
  cases overlay <;> first | rfl | cases leaf

theorem merge_over_leaf (leaf : base.obj? = none) : merge base overlay = overlay := by
  cases overlay <;> try rfl
  cases base <;> first | rfl | cases leaf

theorem merge_obj (fields entries : Fields) : merge (.obj fields) (.obj entries) = .obj (mergeFields fields entries) :=
  rfl

/-- What stands under a key of a merged mapping. -/
def mergeEntry : Option Json → Option Json → Option Json
  | some lower, some upper => some (merge lower upper)
  | none, some upper => some upper
  | lower, none => lower

theorem get?_mergeFields (distinct : entries.keys.Nodup) (key : String) :
    (mergeFields fields entries).get? key = mergeEntry (fields.get? key) (entries.get? key) := by
  induction entries generalizing fields with
  | nil =>
    rw [mergeFields, Fields.get?_nil]
    cases fields.get? key <;> rfl
  | cons entry rest ih =>
    obtain ⟨k, v⟩ := entry
    obtain ⟨fresh, distinct⟩ := List.nodup_cons.mp distinct
    rw [mergeFields, ih distinct, Fields.get?_insert, Fields.get?]
    by_cases here : k = key
    · subst here
      rw [if_pos rfl, if_pos rfl, Fields.get?_eq_none_iff.mpr fresh]
      cases fields.get? k <;> rfl
    · rw [if_neg here, if_neg here]

/-- The keys of the lower mapping come first, then those of the upper one that it does not have. -/
theorem keys_mergeFields (distinct : entries.keys.Nodup) :
    (mergeFields fields entries).keys = fields.keys ++ entries.keys.filter (· ∉ fields.keys) := by
  induction entries generalizing fields with
  | nil => simp [mergeFields, Fields.keys]
  | cons entry rest ih =>
    obtain ⟨k, v⟩ := entry
    obtain ⟨fresh, distinct⟩ := List.nodup_cons.mp distinct
    have parts : Fields.keys ((k, v) :: rest) = k :: Fields.keys rest := rfl
    rw [mergeFields, ih distinct, Fields.keys_insert, parts]
    by_cases there : k ∈ fields.keys
    · rw [if_pos there, List.filter_cons_of_neg (by simpa using there)]
    · rw [if_neg there, List.filter_cons_of_pos (by simpa using there), List.append_assoc]
      congr 1
      refine congrArg (k :: ·) (List.filter_congr fun key member => ?_)
      have other : key ≠ k := fun same => fresh (same ▸ member)
      simp [other]

theorem nodup_mergeFields (distinct : fields.keys.Nodup) (distinct' : entries.keys.Nodup) :
    (mergeFields fields entries).keys.Nodup := by
  rw [keys_mergeFields distinct']
  refine List.nodup_append.mpr ⟨distinct, distinct'.filter _, ?_⟩
  rintro key here _ later rfl
  simpa [here] using (List.mem_filter.mp later).2

/-! ### All levels -/

theorem get?_merge (distinct : entries.keys.Nodup) (key : String) :
    (merge (.obj fields) (.obj entries)).get? key = mergeEntry (fields.get? key) (entries.get? key) :=
  get?_mergeFields distinct key

theorem Distinct.of_get? (distinct : Distinct (.obj entries)) (found : entries.get? key = some value) :
    value.Distinct :=
  (distinct_obj.mp distinct).2 (key, value) (Fields.mem_of_get? found)

/-- What stands at a path of a merged value: both values merged if both have one there, and that of
the upper one if only it has one. What only the lower one has is there unless the upper one ends
before in something that is no mapping. -/
theorem merge_at (distinct : overlay.Distinct) (path : List String) :
    (merge base overlay).at? path =
      match base.at? path, overlay.at? path with
      | some lower, some upper => some (merge lower upper)
      | none, some upper => some upper
      | lower, none => if (overlay.furthest path).isMapping then lower else none := by
  induction path generalizing base overlay with
  | nil => rfl
  | cons key path ih =>
    cases mapping : overlay.obj? with
    | none =>
      have nothing : overlay.get? key = none := by rw [get?, mapping, Option.bind_none]
      simp [merge_of_leaf mapping, at?, furthest, nothing, isMapping, mapping]
    | some entries =>
      obtain rfl := eq_obj mapping
      cases lower : base.obj? with
      | none =>
        have nothing : base.get? key = none := by rw [get?, lower, Option.bind_none]
        rw [merge_over_leaf lower]
        simp only [at?, nothing, Option.bind_none]
        cases ((obj entries).get? key).bind (at? path) <;> simp
      | some fields =>
        obtain rfl := eq_obj lower
        have entry : (merge (obj fields) (obj entries)).get? key = _ := get?_merge (distinct_obj.mp distinct).1 key
        have upper : (obj entries).get? key = entries.get? key := rfl
        have below : (obj fields).get? key = fields.get? key := rfl
        simp only [at?, furthest, entry, upper, below]
        cases there : entries.get? key with
        | none => cases fields.get? key <;> simp [mergeEntry, isMapping, obj?]
        | some value =>
          cases here : fields.get? key with
          | none => cases found : at? path value <;> simp [mergeEntry, found]
          | some existing =>
            simp only [mergeEntry, Option.bind_some]
            exact ih (distinct.of_get? there)

/-- What holds of all that is no mapping, and of a mapping if it holds of its entries, holds of
every value. -/
theorem induction_on_mappings {motive : Json → Prop} (leaf : ∀ value : Json, value.obj? = none → motive value)
    (mapping : ∀ fields : Fields, (∀ entry ∈ fields, motive entry.2) → motive (.obj fields)) (value : Json) :
    motive value := by
  cases object : value.obj? with
  | none => exact leaf value object
  | some fields =>
    have shape := eq_obj object
    rw [shape]
    refine mapping fields fun entry member => ?_
    have smaller := List.sizeOf_lt_of_mem member
    exact induction_on_mappings leaf mapping entry.2
termination_by sizeOf value
decreasing_by
  obtain ⟨key, inner⟩ := entry
  simp [shape] at smaller ⊢
  omega

/-- A value with distinct keys merged over itself is itself. -/
theorem merge_self (distinct : value.Distinct) : merge value value = value := by
  induction value using induction_on_mappings with
  | leaf value leaf => exact merge_of_leaf leaf
  | mapping fields ih =>
    obtain ⟨keys, each⟩ := distinct_obj.mp distinct
    rw [merge_obj]
    congr 1
    refine Fields.ext_get? ?_ (nodup_mergeFields keys keys) fun key => ?_
    · rw [keys_mergeFields keys, List.filter_eq_nil_iff.mpr (by simp), List.append_nil]
    · rw [get?_mergeFields keys]
      cases found : fields.get? key with
      | none => rfl
      | some inner =>
        have member := Fields.mem_of_get? found
        rw [mergeEntry, ih _ member (each _ member)]

/-- Defaults that were merged are merged again without a change. -/
theorem merge_merge (distinct : base.Distinct) (distinct' : overlay.Distinct) :
    merge base (merge base overlay) = merge base overlay := by
  induction overlay using induction_on_mappings generalizing base with
  | leaf overlay leaf => rw [merge_of_leaf leaf, merge_of_leaf leaf]
  | mapping entries ih =>
    cases lower : base.obj? with
    | none => rw [merge_over_leaf lower, merge_over_leaf lower]
    | some fields =>
      obtain rfl := eq_obj lower
      obtain ⟨below, each⟩ := distinct_obj.mp distinct
      obtain ⟨above, each'⟩ := distinct_obj.mp distinct'
      have merged := nodup_mergeFields below above
      rw [merge_obj, merge_obj]
      congr 1
      refine Fields.ext_get? ?_ (nodup_mergeFields below merged) fun key => ?_
      · rw [keys_mergeFields merged, keys_mergeFields above, List.filter_append, List.filter_filter]
        simp
      · rw [get?_mergeFields merged, get?_mergeFields above]
        cases here : Fields.get? fields key with
        | none => cases Fields.get? entries key <;> rfl
        | some existing =>
          have plain := each _ (Fields.mem_of_get? here)
          cases there : Fields.get? entries key with
          | none => rw [mergeEntry, mergeEntry, merge_self plain]
          | some value =>
            have member := Fields.mem_of_get? there
            rw [mergeEntry, mergeEntry, ih _ member plain (each' _ member)]

/-- Where the upper value has something, it stays: a mapping may get more entries, and anything
else is as it was. -/
theorem merge_keeps (distinct : overlay.Distinct) (set : overlay.at? path = some value) :
    ∃ merged, (merge base overlay).at? path = some merged ∧ merged.isMapping = value.isMapping ∧
      (value.isMapping = false → merged = value) := by
  rw [merge_at distinct, set]
  cases base.at? path with
  | none => exact ⟨value, rfl, rfl, fun _ => rfl⟩
  | some lower =>
    refine ⟨merge lower value, rfl, ?_⟩
    cases mapping : value.obj? with
    | none => rw [merge_of_leaf mapping]; exact ⟨rfl, fun _ => rfl⟩
    | some entries =>
      obtain rfl := eq_obj mapping
      refine ⟨?_, fun plain => by cases plain⟩
      cases below : lower.obj? with
      | none => rw [merge_over_leaf below]
      | some fields =>
        obtain rfl := eq_obj below
        rfl

end Json

/-! ### Jobs over defaults -/

open Json

theorem Kind.jobOf_ok {defaults description : Json} {name : String} {job : Job}
    (ran : jobOf defaults (name, description) = .ok job) :
    ∃ merged : Job, merged.value = merge defaults description ∧
      job = if merged.name?.isNone then merged.insert "name" (.str name) else merged := by
  obtain ⟨merged, read, same⟩ := bind_ok_iff.mp ran
  cases same
  refine ⟨merged, ?_, rfl⟩
  simp only [Job.ofValue] at read
  split at read
  · rename_i fields shape
    cases read
    exact shape.symm
  · cases read

/-- Apart from its name, a job has what its description has over the defaults. -/
theorem Kind.at?_jobOf {defaults description : Json} {name key : String} {job : Job}
    (ran : jobOf defaults (name, description) = .ok job) (other : key ≠ "name") (path : List String) :
    job.value.at? (key :: path) = (merge defaults description).at? (key :: path) := by
  obtain ⟨merged, same, rfl⟩ := jobOf_ok ran
  rw [← same]
  split
  · have entry : (merged.insert "name" (.str name)).value.get? key = merged.value.get? key :=
      (Fields.get?_insert _ _ _ _).trans (if_neg (Ne.symm other))
    rw [at?, at?, entry]
  · rfl

/-- A name that the description has is that of the job. -/
theorem Kind.name?_jobOf {defaults description : Json} {name text : String} {job : Job}
    (distinct : description.Distinct) (ran : jobOf defaults (name, description) = .ok job)
    (named : description.get? "name" = some (.str text)) : job.name? = some text := by
  obtain ⟨merged, same, rfl⟩ := jobOf_ok ran
  have set : description.at? ["name"] = some (.str text) := by rw [at?, named]; rfl
  obtain ⟨kept, found, -, plain⟩ : ∃ kept, (merge defaults description).at? ["name"] = some kept ∧ _ :=
    merge_keeps distinct set
  rw [plain rfl, ← same] at found
  have there : merged.value.get? "name" = some (.str text) := by simpa [at?] using found
  have known : merged.name? = some text := congrArg (Option.bind · Json.str?) there
  rw [known]
  exact known

/-- A value merged over defaults has at each path what it has there, with what it lacks filled in
from the defaults, unless it ends on the way in something that is no mapping. So the defaults never
override or hide anything that a job sets, and merging the same again changes nothing. -/
theorem Json.merge_lays_over (defaults description : Json) (lower : defaults.Distinct)
    (upper : description.Distinct) :
    (∀ path, (merge defaults description).at? path =
      match defaults.at? path, description.at? path with
      | some below, some above => some (merge below above)
      | none, some above => some above
      | below, none => if (description.furthest path).isMapping then below else none) ∧
    (∀ path value, description.at? path = some value →
      ∃ merged, (merge defaults description).at? path = some merged ∧ merged.isMapping = value.isMapping ∧
        (value.isMapping = false → merged = value)) ∧
    merge description description = description ∧
    merge defaults (merge defaults description) = merge defaults description ∧
    ∀ name job, Kind.jobOf defaults (name, description) = .ok job →
      (∀ key path, key ≠ "name" → job.value.at? (key :: path) = (merge defaults description).at? (key :: path)) ∧
        ∀ text, description.get? "name" = some (.str text) → job.name? = some text :=
  ⟨merge_at upper, fun _ _ => merge_keeps upper, merge_self upper, merge_merge lower upper,
    fun _ _ ran => ⟨fun _ path other => Kind.at?_jobOf ran other path,
      fun _ named => Kind.name?_jobOf upper ran named⟩⟩

def buildDefaults : Json := .obj [
  ("worker", .obj [("max-run-time", .num (.int 600 rfl)), ("env", .obj [("A", .str "1")])]),
  ("priority", .str "low")]

def urgentBuild : Json := .obj [
  ("worker", .obj [("env", .obj [("B", .str "2")])]), ("priority", .str "high"), ("extra", .null)]

/-- Both variables are there and the priority is that of the job, which ends paths through it. -/
theorem Json.merge_lays_over_build :
    (merge buildDefaults urgentBuild).at? ["worker", "env"] = some (.obj [("A", .str "1"), ("B", .str "2")]) ∧
      (merge buildDefaults urgentBuild).at? ["worker", "max-run-time"] = some (.num (.int 600 rfl)) ∧
      (merge buildDefaults urgentBuild).at? ["priority"] = some (.str "high") ∧
      (merge (.obj [("extra", buildDefaults)]) urgentBuild).at? ["extra", "priority"] = none ∧
      merge buildDefaults (merge buildDefaults urgentBuild) = merge buildDefaults urgentBuild := by
  have leaf (text : String) : (Json.str text).Distinct := distinct_leaf rfl rfl
  have number : (Json.num (.int 600 rfl)).Distinct := distinct_leaf rfl rfl
  have null : Json.null.Distinct := distinct_leaf rfl rfl
  have lower : buildDefaults.Distinct := by simp [buildDefaults, distinct_obj, Fields.keys, leaf, number]
  have upper : urgentBuild.Distinct := by simp [urgentBuild, distinct_obj, Fields.keys, leaf, null]
  have inside : Json.Distinct (.obj [("extra", buildDefaults)]) := by simp [distinct_obj, Fields.keys, lower]
  obtain ⟨places, -, -, again, -⟩ := merge_lays_over buildDefaults urgentBuild lower upper
  obtain ⟨places', -⟩ := merge_lays_over _ urgentBuild inside upper
  exact ⟨(places _).trans (by decide +kernel), (places _).trans (by decide +kernel),
    (places _).trans (by decide +kernel), (places' _).trans (by decide +kernel), again⟩

end TaskPlan
