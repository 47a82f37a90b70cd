import TaskPlan.Files.Tree
import TaskPlan.Pipeline.Stage
import TaskPlan.Yaml.Value

/-!
# Kinds

A kind is a group of jobs that go through the same stages. Its document has the jobs
by name, defaults that they are merged over, and the kinds to be generated before.
-/

namespace TaskPlan

namespace Json

mutual

/-- A value over another one: mappings are merged, and of anything else the upper one
is taken. -/
def merge (base : Json) : Json → Json
  | .obj overlay =>
    match base with
    | .obj fields => .obj (mergeFields fields overlay)
    | _ => .obj overlay
  | value => value
termination_by structural overlay => overlay

def mergeFields (fields : Fields) : List (String × Json) → Fields
  | [] => fields
  | (key, value) :: rest =>
    let merged := match Fields.get? fields key with
      | some existing => merge existing value
      | none => value
    mergeFields (Fields.insert fields key merged) rest
termination_by structural overlay => overlay

end

end Json

structure Kind where
  name : String
  path : String
  /-- what its document holds besides the jobs -/
  config : Fields
  /-- the kinds whose tasks its own may depend upon -/
  dependencies : List String
  jobs : List Job
  pipeline : Pipeline

namespace Kind

variable [Regex.Engine]

def ofJobs (name : String) (jobs : List Job) : Kind := ⟨name, "", [], [], jobs, Stage.standard⟩

def dependenciesOf (name : String) : Option Json → Result (List String)
  | none => .ok []
  | some value =>
    match Json.asList Json.asStr value with
    | some kinds => .ok kinds
    | none => .error (.config (.badKindDependencies name))

def descriptionsOf (name : String) : Option Json → Result Fields
  | none => .ok []
  | some (.obj descriptions) => .ok descriptions
  | some value => .error (.config (.jobsNotMapping name value))

/-- A job over the defaults, named after its entry unless it has a name. -/
def jobOf (defaults : Json) (entry : String × Json) : Result Job := do
  let job ← Job.ofValue (Json.merge defaults entry.2)
  return if job.name?.isNone then job.insert "name" (.str entry.1) else job

def ofFields (name path : String) (document : Fields) : Result Kind := do
  let defaults := (Fields.get? document "job-defaults").getD (.obj [])
  let dependencies ← dependenciesOf name (Fields.get? document "kind-dependencies")
  let descriptions ← descriptionsOf name (Fields.get? document "jobs")
  let jobs ← descriptions.mapM (jobOf defaults)
  let config := ["job-defaults", "kind-dependencies", "jobs"].foldl Fields.erase document
  return ⟨name, path, config, dependencies, jobs, Stage.standard⟩

def ofYaml (name path text : String) : Result Kind :=
  match Yaml.readFields? text with
  | some document => ofFields name path document
  | none => .error .yaml

def load (tree : FileTree) (path : String) : Result Kind :=
  let directory := Path.join tree.name path
  match Path.fileName? directory with
  | none => .error (.config (.unnamedKind directory))
  | some name => do
    let text ← tree.readText (Path.join path "kind.yml")
    ofYaml name path text

end Kind

end TaskPlan
