import TaskPlan.Proofs.Job.Paths
import TaskPlan.Proofs.KeyedBy.Resolve

/-!
# Resolution in place

`KeyedBy.resolveInPlace` takes the steps of `KeyedBy.resolve` on a job that is changed where
it stands, so that a failure leaves whatever the job is by then (`runInPlace_eq`). It is the
job as it was: the only write comes after all that can fail, and it changes nothing but the
value at the field (`runInPlace_local`).
-/

namespace TaskPlan

namespace KeyedBy

section Engine

variable [Regex.Engine]

variable {job updated : Job} {field context : String} {params : Fields} {value result : Json}

/-! ### Steps -/

/-- The steps of `resolve` on a job that is changed where it stands. -/
def resolveInPlace (field context : String) (params : Fields) : ExceptT Error (StateM Job) (Option Json) := do
  let job ← get
  match job.getPath field with
  | none => return none
  | some value =>
    match evaluate (jobSetting job field context params) value with
    | .error fault => throw fault
    | .ok resolved =>
      -- whether the field could be set is not looked at
      modify fun job => (job.setPath field resolved).getD job
      return some resolved

/-- What the steps answer, and the job that they leave. -/
def runInPlace (job : Job) (field context : String) (params : Fields) : Result (Option Json) × Job :=
  (resolveInPlace field context params).run.run job

/-- The steps answer as `resolve` does and leave its job, or the job as it was if they fail. -/
theorem runInPlace_eq (job : Job) (field context : String) (params : Fields) :
    runInPlace job field context params =
      match resolve job field context params with
      | .ok (found, updated) => (.ok found, updated)
      | .error fault => (.error fault, job) := by
  change (match job.getPath field with
    | none => (pure none : ExceptT Error (StateM Job) (Option Json))
    | some value => _).run.run job = _
  rw [resolve]
  cases job.getPath field with
  | none => rfl
  | some value =>
    cases evaluated : evaluate (jobSetting job field context params) value with
    | error fault => simp only [evaluated]; rfl
    | ok resolved => simp only [evaluated]; rfl

theorem resolve_absent (absent : job.getPath field = none) :
    resolve job field context params = .ok (none, job) := by
  rw [resolve, absent]

theorem resolve_error {fault : Error} (found : job.getPath field = some value)
    (failed : evaluate (jobSetting job field context params) value = .error fault) :
    resolve job field context params = .error fault := by
  rw [resolve, found]
  simp only [failed]
  rfl

/-- A value that is there is replaced by what it is evaluated to. -/
theorem resolve_ok (found : job.getPath field = some value)
    (evaluated : evaluate (jobSetting job field context params) value = .ok result) :
    ∃ updated, job.setPath field result = some updated ∧
      resolve job field context params = .ok (some result, updated) := by
  obtain ⟨updated, set⟩ := Job.exists_setPath found result
  refine ⟨updated, set, ?_⟩
  rw [resolve, found]
  simp only [evaluated, Except.map, set, Option.getD_some]

/-- A value that was evaluated is resolved to itself, in a job that stays as it is. -/
theorem resolve_evaluated (plain : ¬ IsKeyed value) (found : job.getPath field = some value) :
    resolve job field context params = .ok (some value, job) := by
  have evaluated : evaluate (jobSetting job field context params) value = .ok value := evaluate_plain plain
  obtain ⟨updated, set, resolved⟩ := resolve_ok found evaluated
  rw [Job.setPath_getPath found] at set
  cases set
  exact resolved

/-- A job is left as it was if a field is not there or cannot be resolved. Otherwise its value is
evaluated, by the values of the job as it was and then by the parameters, and put in the place of
the old one. At paths apart from the field nothing changes, and if the field is resolved again,
nothing at all. -/
theorem runInPlace_local (job : Job) (field context : String) (params : Fields) :
    (∀ outcome left, runInPlace job field context params = (outcome, left) →
      (resolve job field context params).map Prod.fst = outcome ∧
        ∀ found updated, resolve job field context params = .ok (found, updated) → left = updated) ∧
    (job.getPath field = none → runInPlace job field context params = (.ok none, job)) ∧
    ∀ value, job.getPath field = some value →
      let evaluated := evaluate ⟨field, context, fun name => (job.getPath name).or (params.get? name)⟩ value
      (∀ fault, evaluated = .error fault → runInPlace job field context params = (.error fault, job)) ∧
      ∀ result, evaluated = .ok result → ∃ updated,
        runInPlace job field context params = (.ok (some result), updated) ∧
        updated.getPath field = some result ∧
        (∀ path, Apart (segments field) (segments path) → updated.getPath path = job.getPath path) ∧
        ∀ later others, runInPlace updated field later others = (.ok (some result), updated) := by
  refine ⟨fun outcome left ran => ?_, fun absent => ?_, fun value found => ⟨fun fault failed => ?_,
    fun result evaluated => ?_⟩⟩
  · rw [runInPlace_eq] at ran
    cases resolved : resolve job field context params <;> rw [resolved] at ran <;> cases ran
    · exact ⟨rfl, nofun⟩
    · exact ⟨rfl, fun _ _ same => by cases same; rfl⟩
  · rw [runInPlace_eq, resolve_absent absent]
  · rw [runInPlace_eq, resolve_error found failed]
  · obtain ⟨updated, set, resolved⟩ := resolve_ok found evaluated
    have there := Job.getPath_setPath set
    have plain := (evaluates_iff.mp evaluated).resolved.2
    refine ⟨updated, by rw [runInPlace_eq, resolved], there, fun path apart =>
      Job.getPath_setPath_apart set apart, fun later others => ?_⟩
    rw [runInPlace_eq, resolve_evaluated plain there]

end Engine

/-- A build for the main branch, with nothing for its level. -/
def centralBuild : Job := ⟨[("label", .str "build"), ("project", .str "central"),
  ("worker", .obj [
    ("max-run-time", keyedBy "project" [("try", .str "1h"), ("central", .str "2h")]),
    ("env", keyedBy "level" [("3", .obj [])])])]⟩

/-- The project of the job goes before that of the run. What is keyed beside it stays so, and
cannot be resolved. -/
theorem runInPlace_local_central : ∃ updated,
    runInPlace centralBuild "worker.max-run-time" "build" [("project", .str "try")] =
      (.ok (some (.str "2h")), updated) ∧
    updated.getPath "worker.max-run-time" = some (.str "2h") ∧
    updated.getPath "worker.env" = centralBuild.getPath "worker.env" ∧
    runInPlace centralBuild "worker.env" "build" [] =
      (.error (.unresolvedKey "worker.env" "<no level>" "build"), centralBuild) := by
  obtain ⟨-, -, times⟩ :=
    runInPlace_local centralBuild "worker.max-run-time" "build" [("project", .str "try")]
  obtain ⟨-, -, settings⟩ := runInPlace_local centralBuild "worker.env" "build" []
  obtain ⟨-, chosen⟩ := times (keyedBy "project" [("try", .str "1h"), ("central", .str "2h")]) (by decide +kernel)
  obtain ⟨updated, ran, there, elsewhere, -⟩ := chosen (.str "2h") (ok_of_toOption (by decide +kernel))
  obtain ⟨fails, -⟩ := settings (keyedBy "level" [("3", .obj [])]) (by decide +kernel)
  refine ⟨updated, ran, there, elsewhere "worker.env" (by decide +kernel), fails _ rfl⟩

end KeyedBy

end TaskPlan
