import TaskPlan.Pipeline.Stage
import TaskPlan.Proofs.Outcome

/-!
# Streams through pipelines

A stage can be seen as something that is done to a whole stream of jobs and refusals
(`Stage.apply`), and a pipeline as doing so stage after stage (`Pipeline.apply`). As no stage
looks at more than one job at a time, this is what comes of sending the jobs through all
stages one by one (`stream_eq_apply`). So a run of many jobs is made of runs of single ones,
and a run of a longer pipeline is one run after another (`run_laws`).
-/

namespace TaskPlan

/-! ### Streams of results -/

section Collect

variable {ε α : Type} {items : List (Except ε α)}

theorem collect_ok_iff {results : List α} : items.mapM id = .ok results ↔ items = results.map .ok := by
  rw [mapM_ok_iff]
  constructor
  · intro each
    induction each with
    | nil => rfl
    | cons here _ ih =>
      rw [id_eq] at here
      rw [here, ih, List.map_cons]
  · rintro rfl
    exact List.forall₂_map_left_iff.mpr (List.forall₂_same.mpr fun _ _ => rfl)

theorem collect_append (others : List (Except ε α)) : (items ++ others).mapM id = do
    let front ← items.mapM id
    let back ← others.mapM id
    return front ++ back := List.mapM_append

/-- What is collected fails with the first failure. -/
theorem collect_error_iff {fault : ε} : items.mapM id = .error fault ↔
    ∃ (before : List α) (after : List (Except ε α)), items = before.map .ok ++ .error fault :: after := by
  induction items with
  | nil => simp [pure, Except.pure]
  | cons item rest ih =>
    rw [List.mapM_cons, id_eq]
    cases item with
    | error other =>
      constructor
      · intro failed
        cases failed
        exact ⟨[], rest, rfl⟩
      · rintro ⟨before, after, split⟩
        cases before <;> cases split
        rfl
    | ok result =>
      constructor
      · intro failed
        rcases bind_error_iff.mp failed with here | ⟨_, -, failed⟩
        · cases here
        rcases bind_error_iff.mp failed with later | ⟨_, -, done⟩
        · obtain ⟨before, after, rfl⟩ := ih.mp later
          exact ⟨result :: before, after, rfl⟩
        · cases done
      · rintro ⟨before, after, split⟩
        cases before with
        | nil => cases split
        | cons first before =>
          obtain ⟨-, split⟩ := List.cons.inj split
          have failed : rest.mapM id = .error fault := ih.mpr ⟨before, after, split⟩
          rw [failed]
          rfl

end Collect

/-! ### Stages -/

namespace Stage

variable {stage : Stage} {config : StageConfig}

/-- What comes out of a stage for all that comes in. Refusals go through as they are. -/
def apply (stage : Stage) (config : StageConfig) (items : List (Result Job)) : List (Result Job) :=
  match stage.action with
  | .map f => items.map fun item => item >>= f config
  | .filter keep => items.filter fun item =>
    match item with
    | .ok job => keep config job
    | .error _ => true
  | .flatMap f => items.flatMap fun item =>
    match item >>= f config with
    | .ok jobs => jobs.map .ok
    | .error error => [.error error]
  | .watch => items

/-- What comes out of a stage for a single thing that comes in. -/
def expandItem (stage : Stage) (config : StageConfig) : Result Job → List (Result Job)
  | .ok job => stage.expand config job
  | .error error => [.error error]

theorem filter_eq_flatMap {α : Type} (p : α → Bool) (items : List α) :
    items.filter p = items.flatMap fun item => if p item then [item] else [] := by
  induction items with
  | nil => rfl
  | cons item rest ih =>
    rw [List.filter_cons, List.flatMap_cons, ih]
    split <;> rfl

theorem apply_eq_flatMap (stage : Stage) (config : StageConfig) (items : List (Result Job)) :
    stage.apply config items = items.flatMap (stage.expandItem config) := by
  unfold apply
  split
  · rename_i f action
    rw [List.map_eq_flatMap]
    refine congrArg (items.flatMap ·) (funext fun item => ?_)
    cases item <;> simp [expandItem, expand, action, bind, Except.bind]
  · rename_i keep action
    rw [filter_eq_flatMap]
    refine congrArg (items.flatMap ·) (funext fun item => ?_)
    cases item <;> simp [expandItem, expand, action]
  · rename_i f action
    refine congrArg (items.flatMap ·) (funext fun item => ?_)
    cases item with
    | error error => rfl
    | ok job => cases ran : f config job <;> simp [expandItem, expand, action, bind, Except.bind, ran]
  · rename_i action
    have same : stage.expandItem config = fun item => [item] := by
      funext item
      cases item <;> simp [expandItem, expand, action]
    rw [same, ← List.map_eq_flatMap, List.map_id']

end Stage

/-! ### Pipelines -/

namespace Pipeline

variable {config : StageConfig}

theorem through_cons (stage : Stage) (rest : Pipeline) (item : Result Job) :
    through config (stage :: rest) item = (stage.expandItem config item).flatMap (through config rest) := by
  cases item with
  | ok job => rfl
  | error error =>
    cases rest with
    | nil => rfl
    | cons next rest => rfl

/-- What comes out of a pipeline if its stages are applied to the stream one after the other. -/
def apply (pipeline : Pipeline) (config : StageConfig) (items : List (Result Job)) : List (Result Job) :=
  pipeline.foldl (fun items stage => stage.apply config items) items

theorem apply_append (first second : Pipeline) (items : List (Result Job)) :
    (first ++ second).apply config items = second.apply config (first.apply config items) :=
  List.foldl_append

theorem apply_eq_flatMap (pipeline : Pipeline) (items : List (Result Job)) :
    pipeline.apply config items = items.flatMap (through config pipeline) := by
  induction pipeline generalizing items with
  | nil => exact (List.map_id items).symm.trans List.map_eq_flatMap
  | cons stage rest ih =>
    have applied : apply (stage :: rest) config items = apply rest config (stage.apply config items) := rfl
    rw [applied, ih, Stage.apply_eq_flatMap, List.flatMap_assoc]
    exact congrArg (items.flatMap ·) (funext fun item => (through_cons stage rest item).symm)

theorem stream_eq_apply (pipeline : Pipeline) (jobs : List Job) :
    pipeline.stream config jobs = pipeline.apply config (jobs.map .ok) := by
  rw [apply_eq_flatMap, List.flatMap_map]
  rfl

theorem stream_append_jobs (pipeline : Pipeline) (front back : List Job) :
    pipeline.stream config (front ++ back) = pipeline.stream config front ++ pipeline.stream config back :=
  List.flatMap_append

theorem stream_append_stages (first second : Pipeline) (jobs : List Job) :
    (first ++ second).stream config jobs = (first.stream config jobs).flatMap (through config second) := by
  rw [stream_eq_apply, apply_append, ← stream_eq_apply, apply_eq_flatMap]

theorem run_append_jobs (pipeline : Pipeline) (front back : List Job) :
    pipeline.run config (front ++ back) = do
      let first ← pipeline.run config front
      let later ← pipeline.run config back
      return first ++ later := by
  rw [run, stream_append_jobs, collect_append]
  rfl

theorem run_eq_mapM (pipeline : Pipeline) (jobs : List Job) :
    pipeline.run config jobs = (jobs.mapM fun job => pipeline.run config [job]).map List.flatten := by
  induction jobs with
  | nil => rfl
  | cons job rest ih =>
    rw [← List.singleton_append, run_append_jobs, ih, List.singleton_append, List.mapM_cons]
    cases pipeline.run config [job] with
    | error fault => rfl
    | ok first => cases rest.mapM fun job => pipeline.run config [job] <;> rfl

theorem run_append_of_ok {first second : Pipeline} {jobs out : List Job}
    (ran : first.run config jobs = .ok out) : (first ++ second).run config jobs = second.run config out := by
  rw [run, stream_append_stages, collect_ok_iff.mp ran, List.flatMap_map]
  rfl

/-- If the first pipeline refuses a job, the second one has still had the jobs that came
before it, and may have refused one of these. -/
theorem run_append_of_error {first : Pipeline} (second : Pipeline) {jobs : List Job} {fault : Error}
    (failed : first.run config jobs = .error fault) :
    ∃ before after, first.stream config jobs = before.map .ok ++ .error fault :: after ∧
      (first ++ second).run config jobs = second.run config before >>= fun _ => .error fault := by
  obtain ⟨before, after, split⟩ := collect_error_iff.mp failed
  refine ⟨before, after, split, ?_⟩
  have through_error : through config second (.error fault) = [.error fault] := by
    cases second <;> rfl
  rw [run, stream_append_stages, split, List.flatMap_append, List.flatMap_map, List.flatMap_cons,
    through_error, collect_append]
  rfl

/-- A run gives the jobs that come out if the stages are applied to the stream one after the
other, or the first refusal among them. A run of two lists of jobs is the one and then the
other, so that each job goes through all stages by itself, in its turn. A pipeline extended by
another one runs this on what came out, or fails as it did or before. -/
theorem run_laws (first second : Pipeline) (config : StageConfig) (jobs : List Job) :
    (∀ out, first.run config jobs = .ok out ↔ first.apply config (jobs.map .ok) = out.map .ok) ∧
      (∀ fault, first.run config jobs = .error fault ↔ ∃ (before : List Job) (after : List (Result Job)),
        first.apply config (jobs.map .ok) = before.map .ok ++ .error fault :: after) ∧
      first.run config jobs = (jobs.mapM fun job => first.run config [job]).map List.flatten ∧
      (∀ others, first.run config (jobs ++ others) = do
        let front ← first.run config jobs
        let back ← first.run config others
        return front ++ back) ∧
      (∀ out, first.run config jobs = .ok out →
        (first ++ second).run config jobs = second.run config out) ∧
      ∀ fault, first.run config jobs = .error fault →
        ∃ other, (first ++ second).run config jobs = .error other := by
  refine ⟨fun out => ?_, fun fault => ?_, run_eq_mapM first jobs, run_append_jobs first jobs,
    fun out => run_append_of_ok, fun fault failed => ?_⟩
  · rw [run, collect_ok_iff, stream_eq_apply]
  · rw [run, collect_error_iff, stream_eq_apply]
  · obtain ⟨before, after, -, extended⟩ := run_append_of_error second failed
    rw [extended]
    cases second.run config before with
    | error other => exact ⟨other, rfl⟩
    | ok out => exact ⟨fault, rfl⟩

def platformConfig : StageConfig :=
  ⟨"test", "taskgraph/test", [], [], .ofDomain "ci" "https://ci.example.net"⟩

/-- A job for each platform, and then only those with a tier. -/
def platforms : Pipeline := [Stage.split "split" "platform", Stage.keepIf "keep" "tier"]

def standing : Pipeline := [Stage.failIf "reject" "broken", Stage.set "mark" "standing" (.bool true)]

def tieredTest : Job := ⟨[("tier", .str "1"), ("platform", .arr [.str "linux", .str "windows"])]⟩

def brokenTest : Job := ⟨[("broken", .null), ("platform", .str "linux")]⟩

theorem run_laws_platforms :
    platforms.run platformConfig [tieredTest] = .ok
        [⟨[("tier", .str "1"), ("platform", .str "linux")]⟩,
          ⟨[("tier", .str "1"), ("platform", .str "windows")]⟩] ∧
      (platforms ++ standing).run platformConfig [tieredTest] = standing.run platformConfig
        [⟨[("tier", .str "1"), ("platform", .str "linux")]⟩,
          ⟨[("tier", .str "1"), ("platform", .str "windows")]⟩] ∧
      platforms.run platformConfig [tieredTest, brokenTest] =
        .error (.stage "split" "?no-label?" (.text "not a list")) ∧
      ∃ other, (platforms ++ standing).run platformConfig [tieredTest, brokenTest] = .error other := by
  have ran : platforms.run platformConfig [tieredTest] = .ok
      [⟨[("tier", .str "1"), ("platform", .str "linux")]⟩,
        ⟨[("tier", .str "1"), ("platform", .str "windows")]⟩] := rfl
  have failed : platforms.run platformConfig [tieredTest, brokenTest] =
      .error (.stage "split" "?no-label?" (.text "not a list")) := rfl
  obtain ⟨-, -, -, -, goesOn, -⟩ := run_laws platforms standing platformConfig [tieredTest]
  obtain ⟨-, -, -, -, -, stops⟩ := run_laws platforms standing platformConfig [tieredTest, brokenTest]
  exact ⟨ran, goesOn _ ran, failed, stops _ failed⟩

end Pipeline

end TaskPlan
