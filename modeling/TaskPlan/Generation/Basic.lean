import TaskPlan.Config.Run
import TaskPlan.Kind.Basic
import TaskPlan.Optimize.Basic
import TaskPlan.Payload
import TaskPlan.Verify.Basic

/-!
# Generation

From kinds to tasks that can be submitted. The jobs of all kinds make the full graph;
the tasks that a run wants, with all they depend upon, make the target graph; what is
left of it by the optimization is completed with ids and payloads.
-/

namespace TaskPlan

structure Generator where
  graphConfig : GraphConfig
  run : RunParameters
  kinds : List Kind
  registry : Registry
  taskIds : TaskIds
  checks : Checks
  builders : PayloadBuilders
  /-- whether a run wants a task -/
  isTarget : Task → RunParameters → Bool

/-- A task whose dependencies are all ids. -/
structure SubmittableTask where
  taskId : String
  label : String
  definition : Json
  /-- dependency name to id -/
  dependencies : KeyMap String
  attributes : KeyMap Json
deriving DecidableEq

namespace SubmittableTask

def encode (task : SubmittableTask) : Json :=
  .obj [("task-id", .str task.taskId), ("label", .str task.label), ("task", task.definition),
    ("dependencies", .ofMap .str task.dependencies), ("attributes", .ofMap id task.attributes)]

end SubmittableTask

structure GeneratedGraph where
  full : TaskGraph
  target : TaskGraph
  optimized : OptimizedGraph
  tasks : KeyMap SubmittableTask

namespace GeneratedGraph

def byLabel? (g : GeneratedGraph) (label : String) : Option SubmittableTask :=
  (g.optimized.taskIds.get? label).bind g.tasks.get?

def encode (g : GeneratedGraph) : Json := .ofMap SubmittableTask.definition g.tasks

end GeneratedGraph

namespace Generator

/-- A run wants tasks that are for all projects or for its own; those that do not say
are for all. -/
def isForProject (task : Task) (run : RunParameters) : Bool :=
  match (task.attributes.get? "run_on_projects").bind Json.arr? with
  | none => true
  | some projects =>
    (projects.filterMap Json.str?).any fun project =>
      project == "all" || some project == Parameters.project? run.optimize.params

/-! ### Kinds -/

def kindEdges (kinds : List Kind) : SortedSet Edge :=
  .ofList (kinds.flatMap fun kind =>
    kind.dependencies.map fun dependency => ⟨kind.name, dependency, dependency⟩)

/-- The kinds, each after those it depends upon. -/
def orderedKinds (kinds : List Kind) : Result (List Kind) :=
  let byName : KeyMap Kind := .ofList (kinds.map fun kind => (kind.name, kind))
  if byName.size ≠ kinds.length then .error (.config .duplicateKinds)
  else do
    let graph ← Graph.ofParts (.ofList byName.keys) (kindEdges kinds)
    return graph.postorder.filterMap byName.get?

def stageConfig (g : Generator) (kind : Kind) : StageConfig :=
  ⟨kind.name, kind.path, kind.config, g.run.optimize.params, g.graphConfig⟩

def tasksOf (g : Generator) (kind : Kind) : Result (List Task) := do
  let jobs ← kind.pipeline.run (g.stageConfig kind) kind.jobs
  jobs.mapM Task.ofJob

def eventsOf (g : Generator) (kind : Kind) : List Pipeline.Event :=
  Pipeline.untilRefusal (kind.pipeline.events (g.stageConfig kind) kind.jobs)

/-! ### Graphs -/

/-- The kinds whose stages are run, if the kinds are taken in turn up to the first that fails. -/
def started (g : Generator) : List Kind → List Kind
  | [] => []
  | kind :: rest =>
    match g.tasksOf kind with
    | .ok _ => kind :: g.started rest
    | .error _ => [kind]

/-- The kinds whose stages are run for the full graph, in the order in which they are. -/
def ran (g : Generator) : List Kind :=
  match orderedKinds g.kinds with
  | .ok kinds => g.started kinds
  | .error _ => []

/-- What happens on the way to the full graph, with the names of the kinds. -/
def events (g : Generator) : List (String × Pipeline.Event) :=
  g.ran.flatMap fun kind => (g.eventsOf kind).map fun event => (kind.name, event)

def fullGraph (g : Generator) : Result TaskGraph := do
  let kinds ← orderedKinds g.kinds
  let tasks ← kinds.mapM g.tasksOf
  let full ← TaskGraph.ofTasks tasks.flatten
  g.checks.run .full g.graphConfig full
  return full

def targetGraph (g : Generator) (full : TaskGraph) : Result TaskGraph := do
  let wanted := full.tasks.values.filter fun task => g.isTarget task g.run
  let target ← full.subgraph (.ofList (wanted.map Task.label))
  g.checks.run .target g.graphConfig target
  return target

/-! ### Submittable tasks -/

/-- The worker with its placeholders replaced, which must still be a worker. -/
def resolvedWorker (resolver : Resolver) (context : ReferenceContext) (task : Task) :
    Result Worker := do
  let value ← resolver.resolve context task.worker.encode
  match Worker.decode? value with
  | some worker => return worker
  | none => .error (.payload task.label .invalidWorker)

/-- A definition with the ids of all dependencies, each once. -/
def withDependencies (ids : SortedSet String) : Json → Json
  | .obj fields => .obj (Fields.insert fields "dependencies" (.ofStrings ids.toList))
  | definition => definition

def submittable (g : Generator) (optimized : OptimizedGraph) (task : Task) :
    Result SubmittableTask :=
  match optimized.taskIds.get? task.label with
  | none => .error (.graph (.noTaskId task.label) [task.label])
  | some taskId => do
    let dependencies ← optimized.dependencyIds task.label
    let resolver : Resolver := ⟨g.run.generatedAt, g.graphConfig.rootUrl⟩
    let context : ReferenceContext := ⟨task.label, taskId, dependencies⟩
    let definition ← resolver.resolve context task.definition
    let worker ← resolvedWorker resolver context task
    let definition ← buildPayload g.builders worker ⟨task.label, taskId, dependencies, definition⟩
    return ⟨taskId, task.label, withDependencies (.ofList dependencies.values) definition,
      dependencies, task.attributes⟩

def generate (g : Generator) : Lookup Error GeneratedGraph := do
  let full ← Lookup.ofResult g.fullGraph
  let target ← Lookup.ofResult (g.targetGraph full)
  let optimized ← optimize g.registry g.taskIds g.run.optimize target
  Lookup.ofResult do
    g.checks.run .optimized g.graphConfig optimized.graph
    let tasks ← optimized.graph.postorder.mapM (g.submittable optimized)
    return ⟨full, target, optimized, .ofList (tasks.map fun task => (task.taskId, task))⟩

end Generator

end TaskPlan
