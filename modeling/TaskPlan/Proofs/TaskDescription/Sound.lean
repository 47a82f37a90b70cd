import TaskPlan.Proofs.Task.Codec
import TaskPlan.Proofs.TaskDescription.Resolved

/-!
# Tasks of resolved descriptions

The decoder of tasks reads what the shape of a resolved description allows, but for negative
run times and for members of an `any-of` that are no directives (`resolved_sound`).
-/

namespace TaskPlan

/-! ### Reading lists and maps -/

namespace Json

variable {α : Type} {decode : Json → Option α}

theorem exists_asList {items : List Json} (each : ∀ item ∈ items, ∃ a, decode item = some a) :
    ∃ list, asList decode (.arr items) = some list := exists_mapM_some each

theorem exists_asMap {entries : Fields} (each : ∀ entry ∈ entries, ∃ a, decode entry.2 = some a) :
    ∃ m, asMap decode (.obj entries) = some m := by
  have every (entry : String × Json) (member : entry ∈ entries) :
      ∃ read, ((decode entry.2).map fun value => (entry.1, value)) = some read := by
    obtain ⟨a, decoded⟩ := each entry member
    exact ⟨(entry.1, a), by rw [decoded, Option.map_some]⟩
  obtain ⟨read, ran⟩ := exists_mapM_some every
  exact ⟨KeyMap.ofList read, by rw [asMap, ran, Option.map_some]⟩

theorem exists_asMap_any (entries : Fields) : ∃ m, asMap asAny (.obj entries) = some m :=
  exists_asMap fun entry _ => ⟨entry.2, rfl⟩

theorem exists_asStr {value : Json} (settled : Shape.str.Settled value) : ∃ text, value.asStr = some text := by
  obtain ⟨text, rfl⟩ := Shape.exists_of_settled_str settled
  exact ⟨text, rfl⟩

end Json

/-! ### Directives -/

namespace Directive

theorem decodeAll?_eq_mapM (members : List Json) : decodeAll? members = members.mapM decode? := by
  induction members with
  | nil => rfl
  | cons member rest ih => rw [decodeAll?, List.mapM_cons, ih]

/-- Of what the shape of optimizations allows only an `any-of` may be no directive. -/
theorem decode?_of_settled {value : Json} (settled : TaskDescription.optimizationShape.Settled value) :
    value = .null ∨ (∃ directive, decode? value = some directive) ∨
      ∃ members, value = .obj [("any-of", .arr members)] ∧ ∃ member ∈ members, decode? member = none := by
  obtain ⟨alternative, member, settled⟩ := Shape.exists_of_settled_oneOf settled
  simp only [List.mem_cons, List.not_mem_nil, or_false] at member
  rcases member with rfl | rfl | rfl | rfl
  · exact .inl (Shape.completes_null.mp settled).1
  · obtain ⟨content, rfl, inside⟩ := Shape.exists_of_settled_single settled
    obtain ⟨items, rfl, texts⟩ := Shape.settled_list.mp inside
    obtain ⟨paths, read⟩ := Json.exists_asList fun item member => Json.exists_asStr (texts item member)
    exact .inr (.inl ⟨.indexSearch paths, by rw [decode?, read, Option.map_some]⟩)
  · obtain ⟨content, rfl, inside⟩ := Shape.exists_of_settled_single settled
    obtain ⟨items, rfl, texts⟩ := Shape.settled_list.mp inside
    obtain ⟨patterns, read⟩ := Json.exists_asList fun item member => Json.exists_asStr (texts item member)
    exact .inr (.inl ⟨.skipUnlessChanged patterns, by rw [decode?, read, Option.map_some]⟩)
  · obtain ⟨content, rfl, inside⟩ := Shape.exists_of_settled_single settled
    obtain ⟨members, rfl, -⟩ := Shape.settled_list.mp inside
    refine .inr ?_
    by_cases each : ∀ member ∈ members, ∃ directive, decode? member = some directive
    · obtain ⟨directives, read⟩ := exists_mapM_some each
      exact .inl ⟨.anyOf directives, by rw [decode?, decodeAll?_eq_mapM, read, Option.map_some]⟩
    · push Not at each
      obtain ⟨member, listed, other⟩ := each
      exact .inr ⟨members, rfl, member, listed, Option.eq_none_iff_forall_ne_some.mpr other⟩

end Directive

/-! ### Workers -/

open Shape TaskDescription

variable {entries : Fields} {value : Json}

/-- The artifacts that the shape of a worker allows are read. -/
theorem Artifact.exists_decode? (settled : artifactsShape.Settled value) :
    ∃ artifacts, Json.asList decode? value = some artifacts := by
  obtain ⟨items, rfl, each⟩ := settled_list.mp settled
  refine Json.exists_asList fun item member => ?_
  have settled := each item member
  obtain ⟨entries, rfl, -⟩ := settled_record.mp settled
  obtain ⟨_, nameFound, text⟩ := settled.exists_at "name" .str rfl rfl
  obtain ⟨_, pathFound, text'⟩ := settled.exists_at "path" .str rfl rfl
  obtain ⟨_, kindFound, known⟩ := settled.exists_at "type" (.enumeration ["file", "directory"]) rfl rfl
  obtain ⟨name, rfl⟩ := exists_of_settled_str text
  obtain ⟨path, rfl⟩ := exists_of_settled_str text'
  obtain ⟨kind, -, rfl⟩ := exists_of_settled_enumeration known
  refine ⟨⟨name, path, kind⟩, ?_⟩
  simp [decode?, Json.members?, nameFound, pathFound, kindFound, Json.needed, Json.defaulted,
    Json.asStr_lawful _]

/-- The settings of the implementations that run a command are read, but for the run time. -/
theorem exists_commandSettings (before : List Field)
    (settled : Settled (.record (before ++ plainFields commandSettings) false) (.obj entries))
    (distinct : distinctNames (before ++ plainFields commandSettings) = true) :
    ∃ command env n fits artifacts read, entries.get? "command" = some (.arr command) ∧
      entries.get? "env" = some (.obj env) ∧
      entries.get? "max-run-time" = some (.num (.int n fits)) ∧
      entries.get? "artifacts" = some artifacts ∧
      Json.asList Artifact.decode? artifacts = some read := by
  have fields := (List.forall_mem_append.mp (settled.exists_fields distinct)).2
  simp only [commandSettings, plainFields, List.forall_mem_cons, Field.required, Field.withDefault,
    Field.name, Field.shape, Field.presence, ne_eq, reduceCtorEq, not_false_eq_true, forall_const]
    at fields
  obtain ⟨⟨_, commandFound, items⟩, ⟨_, envFound, mapping⟩, ⟨_, timeFound, integer⟩,
    ⟨artifacts, artifactsFound, known⟩, -⟩ := fields
  obtain ⟨command, rfl, -⟩ := settled_list.mp items
  obtain ⟨env, rfl, -⟩ := settled_map.mp mapping
  obtain ⟨n, fits, rfl⟩ := exists_of_settled_int integer
  obtain ⟨read, decoded⟩ := Artifact.exists_decode? known
  exact ⟨command, env, n, fits, artifacts, read, commandFound, envFound, timeFound, artifactsFound, decoded⟩

namespace Worker

/-- The implementation that is named decides how the settings are read. -/
theorem decode?_implementation (kind : WorkerKind) {settings : List Field}
    (settled : Settled
      (.record (.mk "implementation" (.literal (.str kind.name)) .required :: settings) false) (.obj entries))
    (distinct : distinctNames (.mk "implementation" (.literal (.str kind.name)) .required :: settings) = true) :
    decode? (.obj entries) = decodeSettings? (.obj (entries.erase "implementation")) kind := by
  obtain ⟨_, found, named⟩ := settled.exists_fields distinct _ List.mem_cons_self nofun
  rw [settled_literal.mp named] at found
  have name : (entries.get? "implementation").bind Json.asStr = some kind.name := by
    simp only [Field.name] at found
    rw [found]
    rfl
  simp only [decode?, name, WorkerKind.find?_name, Option.bind_eq_bind, Option.bind_some]

theorem decode?_docker
    (settled : (implementation "docker-worker"
      (.required "docker-image" (keyed .any) :: commandSettings)).plain.Settled (.obj entries)) :
    ∃ image command env n fits artifacts,
      entries.get? "max-run-time" = some (.num (.int n fits)) ∧
      decode? (.obj entries) =
        (Json.num (.int n fits)).word?.map fun time => .docker image command env time artifacts := by
  have named := decode?_implementation .docker settled (by decide)
  obtain ⟨command, env, n, fits, artifacts, list, commandFound, envFound, timeFound, artifactsFound,
    artifactsRead⟩ := exists_commandSettings [_, _] settled (by decide)
  obtain ⟨image, imageFound, -⟩ := settled.exists_at "docker-image" .any rfl rfl
  obtain ⟨env', envRead⟩ := Json.exists_asMap_any env
  refine ⟨image, command, env', n, fits, list, timeFound, ?_⟩
  rw [named, Option.map_eq_bind]
  simp [decodeSettings?, Json.members?, Fields.get?_erase, Json.needed, Json.defaulted, imageFound,
    commandFound, envFound, timeFound, artifactsFound, Json.asAny, Json.asList_asAny, envRead,
    artifactsRead]

theorem decode?_generic
    (settled : (implementation "generic-worker"
      (.required "os" (.enumeration ["linux", "macosx", "windows"]) :: commandSettings)).plain.Settled
        (.obj entries)) :
    ∃ os command env n fits artifacts,
      entries.get? "max-run-time" = some (.num (.int n fits)) ∧
      decode? (.obj entries) =
        (Json.num (.int n fits)).word?.map fun time => .generic os command env time artifacts := by
  have named := decode?_implementation .generic settled (by decide)
  obtain ⟨command, env, n, fits, artifacts, list, commandFound, envFound, timeFound, artifactsFound,
    artifactsRead⟩ := exists_commandSettings [_, _] settled (by decide)
  obtain ⟨_, osFound, known⟩ := settled.exists_at "os" (.enumeration ["linux", "macosx", "windows"]) rfl rfl
  obtain ⟨os, -, rfl⟩ := exists_of_settled_enumeration known
  obtain ⟨env', envRead⟩ := Json.exists_asMap_any env
  refine ⟨os, command, env', n, fits, list, timeFound, ?_⟩
  rw [named, Option.map_eq_bind]
  simp [decodeSettings?, Json.members?, Fields.get?_erase, Json.needed, Json.defaulted, osFound,
    commandFound, envFound, timeFound, artifactsFound, Json.asStr_lawful _, Json.asList_asAny,
    envRead, artifactsRead]

theorem decode?_script
    (settled : (implementation "scriptworker" [
      .withDefault "upstream-artifacts" (.list .any) (.arr []),
      .withDefault "payload" (.map .any) (.obj [])]).plain.Settled (.obj entries)) :
    ∃ upstream payload, decode? (.obj entries) = some (.script upstream payload) := by
  have named := decode?_implementation .script settled (by decide)
  obtain ⟨_, upstreamFound, items⟩ := settled.exists_at "upstream-artifacts" (.list .any) rfl rfl
  obtain ⟨_, payloadFound, mapping⟩ := settled.exists_at "payload" (.map .any) rfl rfl
  obtain ⟨upstream, rfl, -⟩ := settled_list.mp items
  obtain ⟨payload, rfl, -⟩ := settled_map.mp mapping
  refine ⟨upstream, payload, ?_⟩
  rw [named]
  simp [decodeSettings?, Json.members?, Fields.get?_erase, Json.defaulted, upstreamFound, payloadFound,
    Json.asList_asAny, Json.asFields, Json.obj?]

theorem decode?_alwaysOptimized
    (settled : (implementation "always-optimized" []).plain.Settled (.obj entries)) :
    decode? (.obj entries) = some .alwaysOptimized := by
  rw [decode?_implementation .alwaysOptimized settled (by decide), decodeSettings?]

theorem exists_decode?_of_time {n : Int} {fits : isWordInt n = true} {make : UInt64 → Worker}
    (found : value.get? "max-run-time" = some (.num (.int n fits)))
    (read : decode? value = (Json.num (.int n fits)).word?.map make) :
    (∃ worker, decode? value = some worker) ↔
      ∀ n fits, value.get? "max-run-time" = some (.num (.int n fits)) → 0 ≤ n := by
  have time : (∃ worker, decode? value = some worker) ↔ 0 ≤ n := by
    rw [read, Json.word?]
    split <;> simp_all
  rw [time]
  constructor
  · intro positive m fits again
    cases found.symm.trans again
    exact positive
  · exact fun each => each n fits found

theorem exists_decode?_of_no_time {worker : Worker} (nowhere : value.get? "max-run-time" = none)
    (read : decode? value = some worker) :
    (∃ worker, decode? value = some worker) ↔
      ∀ n fits, value.get? "max-run-time" = some (.num (.int n fits)) → 0 ≤ n := by
  refine iff_of_true ⟨worker, read⟩ fun n fits found => ?_
  cases nowhere.symm.trans found

/-- A worker that its shape allows is read if its run time is not negative. -/
theorem exists_decode?_iff (settled : workerShape.plain.Settled value) :
    (∃ worker, decode? value = some worker) ↔
      ∀ n fits, value.get? "max-run-time" = some (.num (.int n fits)) → 0 ≤ n := by
  obtain ⟨alternative, member, settled⟩ := exists_of_settled_oneOf settled
  simp only [plainAll, List.mem_cons, List.not_mem_nil, or_false] at member
  rcases member with rfl | rfl | rfl | rfl
  all_goals obtain ⟨entries, rfl, -⟩ := settled_record.mp settled
  · obtain ⟨_, _, _, n, fits, _, found, read⟩ := decode?_docker settled
    exact exists_decode?_of_time found read
  · obtain ⟨_, _, _, n, fits, _, found, read⟩ := decode?_generic settled
    exact exists_decode?_of_time found read
  · obtain ⟨_, _, read⟩ := decode?_script settled
    exact exists_decode?_of_no_time (get?_eq_none settled (by cbv)) read
  · exact exists_decode?_of_no_time (get?_eq_none settled (by cbv)) (decode?_alwaysOptimized settled)

end Worker

/-! ### Built tasks -/

theorem Task.ofJob_ok_iff {job : Job} {task : Task} :
    ofJob job = .ok task ↔ decode? job.value = some task := by
  rw [ofJob]
  split <;> simp_all

namespace TaskDescription

/-- What is built from a description has the fields of a task. -/
theorem build_ok [Regex.Engine] {config : StageConfig} {job built : Job} (ran : build config job = .ok built) :
    ∃ label definition, built = ⟨[("label", .str label), ("kind", .str config.kind),
      ("attributes", .obj (attributes job)), ("dependencies", (job.get? "dependencies").getD (.obj [])),
      ("optimization", (job.get? "optimization").getD .null), ("worker", (job.get? "worker").getD .null),
      ("task", definition)]⟩ := by
  rw [build] at ran
  split at ran
  · cases ran
  · rename_i label _
    obtain ⟨_, -, ran⟩ := bind_ok_iff.mp ran
    obtain ⟨_, -, ran⟩ := bind_ok_iff.mp ran
    obtain ⟨_, -, ran⟩ := bind_ok_iff.mp ran
    obtain ⟨_, -, ran⟩ := bind_ok_iff.mp ran
    cases ran
    exact ⟨label, _, rfl⟩

theorem exists_ofJob_build [Regex.Engine] {config : StageConfig} {job built : Job} (ran : build config job = .ok built) :
    (∃ task, Task.ofJob built = .ok task) ↔
      (∃ dependencies, Json.asMap Json.asStr ((job.get? "dependencies").getD (.obj [])) = some dependencies) ∧
      (∃ optimization,
        Json.optional Directive.decode? ((job.get? "optimization").getD .null) = some optimization) ∧
      ∃ worker, Worker.decode? ((job.get? "worker").getD .null) = some worker := by
  obtain ⟨label, definition, rfl⟩ := build_ok ran
  obtain ⟨attributes', read⟩ := Json.exists_asMap_any (attributes job)
  simp only [Task.ofJob_ok_iff]
  simp [Task.decode?, Job.value, Task.fieldNames, Json.members?, Fields.get?, Json.needed,
    Json.defaulted, Json.asStr_lawful _, read, Json.asAny, Option.bind_eq_some_iff]

theorem getPath_maxRunTime {job : Job} {worker : Json} (found : job.get? "worker" = some worker) :
    job.getPath "worker.max-run-time" = worker.get? "max-run-time" := by
  have keys : segments "worker.max-run-time" = ["worker", "max-run-time"] := by cbv
  rw [Job.get?] at found
  rw [Job.getPath, keys, Fields.getAt_cons_cons, found]
  rfl

/-- Null and what is read as a directive are what may stand for an optimization. -/
theorem exists_optional_iff {value : Json} :
    (∃ optimization, Json.optional Directive.decode? value = some optimization) ↔
      value = .null ∨ ∃ directive, Directive.decode? value = some directive := by
  by_cases null : value = .null
  · simp [null, Json.optional]
  · simp [Json.optional_of_ne_null _ null, null]

/-- A description that conforms to the shape and in which the keyed-by fields are resolved
conforms to the shape without keyed-by mappings. What is built from it is read as a task unless
its worker has a negative run time or its optimization is an `any-of` with a member that is no
directive. -/
theorem resolved_sound [Regex.Engine] {config : StageConfig} {job checked resolved : Job}
    (validated : Stage.checkShape shape config job = .ok checked)
    (ran : KeyedBy.resolveAll keyedFields checked.displayLabel config.params checked = .ok resolved) :
    Resolved resolved ∧
    (∀ built, build config resolved = .ok built →
      ((∃ task, Task.ofJob built = .ok task) ↔
        (∀ n fits, resolved.getPath "worker.max-run-time" = some (.num (.int n fits)) → 0 ≤ n) ∧
        ∀ optimization, resolved.get? "optimization" = some optimization →
          optimization = .null ∨ ∃ directive, Directive.decode? optimization = some directive)) ∧
    ∀ optimization, resolved.get? "optimization" = some optimization → optimization ≠ .null →
      Directive.decode? optimization = none →
      ∃ members, optimization = .obj [("any-of", .arr members)] ∧
        ∃ member ∈ members, Directive.decode? member = none := by
  have settled := settled_of_resolved validated ran
  obtain ⟨dependencies, dependenciesFound, texts⟩ :=
    settled.exists_at "dependencies" (.map .str) (by cbv) (by cbv)
  obtain ⟨optimization, optimizationFound, allowed⟩ :=
    settled.exists_at "optimization" optimizationShape (by cbv) (by cbv)
  obtain ⟨worker, workerFound, runs⟩ :=
    settled.exists_at "worker" workerShape.plain (by cbv) (by cbv)
  refine ⟨resolved_of_settled settled, fun built ran => ?_, fun other found there unread => ?_⟩
  · obtain ⟨entries, rfl, each⟩ := settled_map.mp texts
    have read := Json.exists_asMap fun entry member => Json.exists_asStr (each entry member)
    rw [exists_ofJob_build ran, getPath_maxRunTime workerFound, ← Worker.exists_decode?_iff runs]
    simp only [Job.get?, dependenciesFound, optimizationFound, workerFound, Option.getD_some, read,
      true_and, Option.some.injEq, forall_eq', exists_optional_iff]
    exact and_comm
  · cases optimizationFound.symm.trans found
    rcases Directive.decode?_of_settled allowed with null | ⟨directive, decoded⟩ | unreadable
    · exact absurd null there
    · cases unread.symm.trans decoded
    · exact unreadable

/-- A run for the main branch. -/
def branchConfig : StageConfig where
  kind := "build"
  path := "taskgraph/build"
  config := []
  params := [("project", .str "main"), ("level", .str "3"), ("owner", .str "builds@example.net")]
  graphConfig := .ofDomain "ci" "https://ci.example.net"

/-- A build in an image. Its run time would be negative at another level. -/
def keyedBuild : Job := ⟨[
  ("label", .str "build-linux"), ("description", .str "the build"),
  ("worker-type", .str "ci/linux-\x7blevel\x7d"),
  ("priority", .obj [("by-project", .obj [
    ("main", .obj [("by-level", .obj [("3", .str "high"), ("default", .str "low")])]),
    ("default", .str "lowest")])]),
  ("optimization", (Directive.skipUnlessChanged ["src/**"]).encode),
  ("worker", .obj [("implementation", .str "docker-worker"), ("docker-image", .str "linux"),
    ("env", .obj [("by-level", .obj [("3", .obj [("RELEASE", .str "1")]), ("default", .obj [])])]),
    ("max-run-time", .obj [("by-level", .obj [
      ("3", .num (.int 7200 (by decide))), ("default", .num (.int (-1) (by decide)))])])])]⟩

/-- The alternatives of the run are chosen, also inside others, and the build is read as a task. -/
theorem resolved_sound_build :
    ∃ checked resolved built, Stage.checkShape shape branchConfig keyedBuild = .ok checked ∧
      KeyedBy.resolveAll keyedFields checked.displayLabel branchConfig.params checked = .ok resolved ∧
      build branchConfig resolved = .ok built ∧ Resolved resolved ∧
      resolved.getPath "priority" = some (.str "high") ∧ ∃ task, Task.ofJob built = .ok task := by
  obtain ⟨checked, validated, h⟩ := exists_ok (x := Stage.checkShape shape branchConfig keyedBuild)
    (p := fun checked =>
      (KeyedBy.resolveAll keyedFields checked.displayLabel branchConfig.params checked).toOption.any
        fun resolved => (build branchConfig resolved).toOption.any fun _ => decide
          (resolved.getPath "worker.max-run-time" = some (.num (.int 7200 (by decide))) ∧
            resolved.get? "optimization" = some (Directive.skipUnlessChanged ["src/**"]).encode ∧
            resolved.getPath "priority" = some (.str "high")))
    (by decide +kernel)
  obtain ⟨resolved, ran, h⟩ := exists_ok h
  obtain ⟨built, made, h⟩ := exists_ok h
  obtain ⟨time, optimization, priority⟩ := of_decide_eq_true h
  obtain ⟨conforms, read, -⟩ := resolved_sound validated ran
  refine ⟨checked, resolved, built, validated, ran, made, conforms, priority, (read built made).mpr ⟨?_, ?_⟩⟩
  · intro n fits found
    cases time.symm.trans found
    decide
  · intro other found
    cases optimization.symm.trans found
    exact .inr ⟨_, Directive.decode?_encode _⟩

end TaskDescription

end TaskPlan
