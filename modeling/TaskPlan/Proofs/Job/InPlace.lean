import TaskPlan.Proofs.Job.Paths
import TaskPlan.Proofs.Json.Inside

/-!
# Jobs set in place

`Job.setPathInPlace` takes the steps of `Job.setPath` on a job that is changed where it stands:
down through the mappings that the path leads to, whose last one gets the entry. It leaves the
job that `setPath` gives, or the job as it was (`runSetPath_eq`), and it gets to the end if each
part of the path before leads to a mapping (`exists_setPath_iff`). With what is read afterwards
these are the laws of a place that is read and set (`runSetPath_lawful`).
-/

namespace TaskPlan

open Json (exists_obj_of_leads)

namespace Fields

variable {fields : Fields} {key : String} {keys : List String}

/-! ### Steps -/

/-- Sets an entry of the mapping that is changed. -/
def put (key : String) (value : Json) : StateM Fields Bool := do
  modify fun fields => fields.insert key value
  return true

/-- Steps taken in the mapping that keys lead to, if they lead to one. -/
def within : List String → StateM Fields Bool → StateM Fields Bool
  | [], steps => steps
  | key :: keys, steps => do
    match (← get).get? key with
    | some (.obj inner) =>
      -- the mapping stands as it was left, also if the steps ended before their last one
      let (done, left) := ((within keys steps).run inner).run
      modify fun fields => fields.insert key (.obj left)
      return done
    | _ => return false

/-- The steps of `setAt` on a mapping that is changed where it stands. -/
def setInPlace (path : List String) (value : Json) : StateM Fields Bool :=
  match path.getLast? with
  | none => return false
  | some last => within path.dropLast (put last value)

theorem run_within_cons {steps : StateM Fields Bool} :
    (within (key :: keys) steps).run fields =
      match (fields.get? key).bind Json.obj? with
      | some inner =>
        let (done, left) := (within keys steps).run inner
        (done, fields.insert key (.obj left))
      | none => (false, fields) := by
  rw [within]
  change (match fields.get? key with
    | some (.obj inner) => _
    | _ => (return false : StateM Fields Bool)).run fields = _
  cases fields.get? key with
  | none => rfl
  | some value => cases value <;> rfl

/-- The steps leave what `setAt` gives, or the mapping as it was. -/
theorem run_within_put (keys : List String) (last : String) (value : Json) (fields : Fields) :
    (within keys (put last value)).run fields =
      match fields.setAt (keys ++ [last]) value with
      | some updated => (true, updated)
      | none => (false, fields) := by
  induction keys generalizing fields with
  | nil => rfl
  | cons key keys ih =>
    rw [run_within_cons, List.cons_append, setAt_below (by simp)]
    cases there : (fields.get? key).bind Json.obj? with
    | none => rfl
    | some inner =>
      simp only [ih, Option.bind_some]
      cases inner.setAt (keys ++ [last]) value with
      | some changed => rfl
      | none =>
        -- the mapping that was not changed is put back where it was
        have unchanged : fields.insert key (.obj inner) = fields := insert_get? (obj_iff.mp there)
        exact congrArg (false, ·) unchanged

theorem run_setInPlace (path : List String) (value : Json) (fields : Fields) :
    (setInPlace path value).run fields =
      match fields.setAt path value with
      | some updated => (true, updated)
      | none => (false, fields) := by
  rcases List.eq_nil_or_concat' path with rfl | ⟨keys, last, rfl⟩
  · rfl
  · rw [setInPlace, List.getLast?_concat, List.dropLast_concat]
    exact run_within_put keys last value fields

/-! ### Places that can be set -/

/-- A place can be set if the keys before its last one lead to a mapping. -/
theorem exists_setAt_concat (keys : List String) (last : String) (value : Json) :
    (∃ updated, fields.setAt (keys ++ [last]) value = some updated) ↔
      ∃ inner, (Json.obj fields).at? keys = some (.obj inner) := by
  induction keys generalizing fields with
  | nil => exact ⟨fun _ => ⟨fields, rfl⟩, fun _ => ⟨_, rfl⟩⟩
  | cons key keys ih =>
    constructor
    · rintro ⟨updated, set⟩
      rcases setAt_cons set with ⟨ended, -⟩ | ⟨-, entries, changed, found, written, -⟩
      · exact absurd ended (by simp)
      · obtain ⟨inner, leads⟩ := ih.mp ⟨changed, written⟩
        exact ⟨inner, Option.bind_eq_some_iff.mpr ⟨_, found, leads⟩⟩
    · rintro ⟨inner, leads⟩
      obtain ⟨first, found, below⟩ := Option.bind_eq_some_iff.mp leads
      obtain ⟨entries, here⟩ := exists_obj_of_leads below List.nil_prefix
      cases here
      obtain ⟨changed, written⟩ := ih.mpr ⟨inner, below⟩
      exact ⟨_, setAt_inside found written⟩

end Fields

namespace Job

variable {job left updated : Job} {path : String} {value : Json} {done : Bool}

/-- The steps of `setPath` on a job that is changed where it stands. -/
def setPathInPlace (path : String) (value : Json) : StateM Job Bool := do
  let (done, left) := ((Fields.setInPlace (segments path) value).run (← get).fields).run
  set (Job.mk left)
  return done

/-- Whether the steps got to the end of the path, and the job that they leave. -/
def runSetPath (job : Job) (path : String) (value : Json) : Bool × Job :=
  ((setPathInPlace path value).run job).run

theorem runSetPath_eq (job : Job) (path : String) (value : Json) :
    job.runSetPath path value =
      match job.setPath path value with
      | some updated => (true, updated)
      | none => (false, job) := by
  have steps := Fields.run_setInPlace (segments path) value job.fields
  change (let (done, left) := (Fields.setInPlace (segments path) value).run job.fields
    (done, Job.mk left)) = _
  rw [steps, setPath]
  cases job.fields.setAt (segments path) value <;> rfl

/-- A path can be set if each part of it that ends before leads to a mapping. -/
theorem exists_setPath_iff :
    (∃ updated, job.setPath path value = some updated) ↔
      ∀ keys, keys <+: segments path → keys ≠ segments path →
        ∃ inner, job.value.at? keys = some (.obj inner) := by
  obtain ⟨before, last, parts⟩ := (List.eq_nil_or_concat' (segments path)).resolve_left (segments_ne_nil path)
  have set : (∃ updated, job.setPath path value = some updated) ↔
      ∃ updated, job.fields.setAt (before ++ [last]) value = some updated := by
    rw [setPath, parts]
    cases job.fields.setAt (before ++ [last]) value <;> simp
  rw [set, Fields.exists_setAt_concat, parts]
  constructor
  · rintro ⟨inner, leads⟩ keys start short
    exact exists_obj_of_leads leads ((List.prefix_concat_iff.mp start).resolve_left short)
  · exact fun each => each before (List.prefix_append before [last]) (by simp)

theorem runSetPath_of_set (set : job.setPath path value = some updated) :
    job.runSetPath path value = (true, updated) := by
  rw [runSetPath_eq, set]

theorem runSetPath_cases (ran : job.runSetPath path value = (done, left)) :
    (done = true ∧ job.setPath path value = some left) ∨
      (done = false ∧ left = job ∧ job.setPath path value = none) := by
  rw [runSetPath_eq] at ran
  cases set : job.setPath path value with
  | some updated =>
    rw [set] at ran
    cases ran
    exact .inl ⟨rfl, rfl⟩
  | none =>
    rw [set] at ran
    cases ran
    exact .inr ⟨rfl, rfl, rfl⟩

/-- The end of a path is set if each part of the path that ends before leads to a mapping, and
else the job is left as it was. What was set is read there, nothing changes at paths apart, and
what was set before plays no part when the path is set again. A path with a value can be set, and
that value set there, at once or afterwards, leaves the job as it was. -/
theorem runSetPath_lawful (job : Job) (path : String) (value : Json)
    (ran : job.runSetPath path value = (done, left)) :
    job.setPath path value = (if done then some left else none) ∧
    (done = true ↔ ∀ keys, keys <+: segments path → keys ≠ segments path →
      ∃ inner, job.value.at? keys = some (.obj inner)) ∧
    (done = false → left = job) ∧
    (done = true → left.getPath path = some value ∧
      (∀ other, Apart (segments path) (segments other) → left.getPath other = job.getPath other) ∧
      ∀ result, left.runSetPath path result = job.runSetPath path result) ∧
    ∀ before, job.getPath path = some before →
      done = true ∧ job.runSetPath path before = (true, job) ∧ left.runSetPath path before = (true, job) := by
  rcases runSetPath_cases ran with ⟨rfl, set⟩ | ⟨rfl, rfl, refused⟩
  · have again (result : Json) : left.runSetPath path result = job.runSetPath path result := by
      rw [runSetPath_eq, runSetPath_eq, setPath_setPath set]
      have possible : ∃ updated, job.setPath path result = some updated :=
        exists_setPath_iff.mpr (exists_setPath_iff.mp ⟨left, set⟩)
      obtain ⟨updated, set'⟩ := possible
      rw [set']
    refine ⟨set, ⟨fun _ => exists_setPath_iff.mp ⟨left, set⟩, fun _ => rfl⟩, nofun,
      fun _ => ⟨getPath_setPath set, fun other apart => getPath_setPath_apart set apart, again⟩,
      fun before found => ?_⟩
    have same : job.runSetPath path before = (true, job) := runSetPath_of_set (setPath_getPath found)
    exact ⟨rfl, same, (again before).trans same⟩
  · have impossible : ¬ ∃ updated, left.setPath path value = some updated := by simp [refused]
    exact ⟨refused, ⟨nofun, fun leads => absurd (exists_setPath_iff.mpr leads) impossible⟩, fun _ => rfl, nofun,
      fun before found => absurd (exists_setPath found value) impossible⟩

/-- A job with a key that looks like a path, and with empty keys. -/
def dottedJob : Job := ⟨[("label", .str "build"), ("worker.max-run-time", .null),
  ("worker", .obj [("max-run-time", .num (.int 10 rfl)), ("", .obj [("", .str "empty")])])]⟩

/-- The time of the worker is set to another one and back, apart from the key that looks like its
path and from empty keys. Nothing can be set below a label. -/
theorem runSetPath_lawful_dotted : ∃ left,
    dottedJob.runSetPath "worker.max-run-time" (.num (.int 20 rfl)) = (true, left) ∧
      left.getPath "worker.max-run-time" = some (.num (.int 20 rfl)) ∧
      left.getPath "worker.." = some (.str "empty") ∧
      left.runSetPath "worker.max-run-time" (.num (.int 10 rfl)) = (true, dottedJob) ∧
      dottedJob.runSetPath "label.text" .null = (false, dottedJob) := by
  obtain ⟨left, ran⟩ : ∃ left, dottedJob.runSetPath "worker.max-run-time" (.num (.int 20 rfl)) = (true, left) :=
    ⟨_, Prod.ext (by decide +kernel) rfl⟩
  obtain ⟨kept, refused⟩ : ∃ kept, dottedJob.runSetPath "label.text" .null = (false, kept) :=
    ⟨_, Prod.ext (by decide +kernel) rfl⟩
  obtain ⟨-, -, -, set, back⟩ := runSetPath_lawful dottedJob "worker.max-run-time" (.num (.int 20 rfl)) ran
  obtain ⟨there, elsewhere, -⟩ := set rfl
  obtain ⟨-, -, afterwards⟩ := back (.num (.int 10 rfl)) (by decide +kernel)
  obtain ⟨-, -, unchanged, -⟩ := runSetPath_lawful dottedJob "label.text" .null refused
  have untouched : left.getPath "worker.." = some (.str "empty") :=
    (elsewhere "worker.." (by decide +kernel)).trans (by decide +kernel)
  exact ⟨left, ran, there, untouched, afterwards, by rw [refused, unchanged rfl]⟩

end Job

end TaskPlan
