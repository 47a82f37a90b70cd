import TaskPlan.KeyedBy.Evaluate
import TaskPlan.Pipeline.Basic

/-!
# Tasks from descriptions

A finished task description becomes a job with the fields of a task. Moments are
left as placeholders, relative to the generation.
-/

namespace TaskPlan

namespace TaskDescription

variable [Regex.Engine]

def fault (label : String) (fault : StageFault) : Error := .stage "build-task" label fault

def levelMark : String := "\x7blevel\x7d"

/-- A text with the level in the place of each mark; without marks none is needed. -/
def withLevel (level : Option String) (label template : String) : Result String :=
  if !Text.contains template levelMark then .ok template
  else
    match level with
    | some level => .ok (Text.replaceAll levelMark level template)
    | none => .error (fault label (.levelRequired template))

def workerType (level : Option String) (label : String) (job : Job) : Result (String × String) := do
  let workerType ← withLevel level label ((job.text? "worker-type").getD "")
  match Text.splitOnce? '/' workerType with
  | some halves => return halves
  | none => .error (fault label (.badWorkerType workerType))

/-- The routes under which a job with an `index` is found, by latest and by revision. -/
def indexRoutes (config : StageConfig) (job : Job) : List String :=
  match (job.get? "index").bind Json.obj? with
  | none => []
  | some index =>
    let product := ((Fields.get? index "product").bind Json.str?).getD ""
    let jobName := ((Fields.get? index "job-name").bind Json.str?).getD ""
    let project := (Parameters.project? config.params).getD "unknown"
    let root := s!"{config.graphConfig.indexPrefix}.{config.graphConfig.trustDomain}.v2.{project}"
    let latest := s!"{root}.latest.{product}.{jobName}"
    match Parameters.text? config.params "head_rev" with
    | some revision => [latest, s!"{root}.revision.{revision}.{product}.{jobName}"]
    | none => [latest]

def routes (config : StageConfig) (job : Job) : List Json :=
  ((job.get? "routes").bind Json.arr?).getD [] ++ (indexRoutes config job).map .str

def scopes (level : Option String) (label : String) (job : Job) : Result (List Json) := do
  let templates := (((job.get? "scopes").bind Json.arr?).getD []).filterMap Json.str?
  let scopes ← templates.mapM (withLevel level label)
  return scopes.map .str

/-- How long the task is kept; the default of the configuration may be keyed by
parameters. -/
def expiresAfter (config : StageConfig) (label : String) (job : Job) : Result String :=
  match job.text? "expires-after" with
  | some s => .ok s
  | none => do
    let value ← KeyedBy.evaluate ⟨"expires-after", label, fun name => Fields.get? config.params name⟩
      config.graphConfig.expiresAfter
    match value with
    | .str s => return s
    | value => .error (.config (.expiryNotText value))

def fieldsOf (job : Job) (key : String) : Fields := ((job.get? key).bind Json.obj?).getD []

def tags (config : StageConfig) (label owner : String) (job : Job) : Fields :=
  Fields.insert (Fields.insert (Fields.insert (fieldsOf job "tags") "createdForUser" (.str owner))
    "kind" (.str config.kind)) "label" (.str label)

def source (config : StageConfig) : Fields :=
  match Parameters.text? config.params "head_repository", Parameters.text? config.params "head_rev" with
  | some repository, some revision =>
    [("source", .str s!"{repository}/file/{revision}/{config.path}")]
  | _, _ => []

def metadata (config : StageConfig) (label owner : String) (job : Job) : Fields :=
  [("description", (job.get? "description").getD .null), ("name", .str label),
    ("owner", .str owner)] ++ source config

def relative (offset : String) : Json := .obj [("relative-datestamp", .str offset)]

def attributes (job : Job) : Fields :=
  Fields.insert (fieldsOf job "attributes") "run_on_projects"
    ((job.get? "run-on-projects").getD (.arr [.str "all"]))

def build (config : StageConfig) (job : Job) : Result Job :=
  match job.label? with
  | none => .error (fault job.displayLabel .missingLabel)
  | some label => do
    let level := Parameters.asText? config.params "level"
    let (provisioner, workerType) ← workerType level label job
    let scopes ← scopes level label job
    let expiresAfter ← expiresAfter config label job
    let deadlineAfter := (job.text? "deadline-after").getD config.graphConfig.deadlineAfter
    let priority := (job.text? "priority").getD config.graphConfig.taskPriority
    let owner ← (Parameters.required config.params "owner").mapError fun missing =>
      fault label (.config missing)
    let definition : Fields := [
      ("provisionerId", .str provisioner), ("workerType", .str workerType),
      ("routes", .arr (routes config job)), ("created", relative "0 seconds"),
      ("deadline", relative deadlineAfter), ("expires", relative expiresAfter),
      ("scopes", .arr scopes), ("metadata", .obj (metadata config label owner job)),
      ("extra", (job.get? "extra").getD (.obj [])), ("tags", .obj (tags config label owner job)),
      ("priority", .str priority)]
    return ⟨[("label", .str label), ("kind", .str config.kind), ("attributes", .obj (attributes job)),
      ("dependencies", (job.get? "dependencies").getD (.obj [])),
      ("optimization", (job.get? "optimization").getD .null),
      ("worker", (job.get? "worker").getD .null), ("task", .obj definition)]⟩

end TaskDescription

end TaskPlan
