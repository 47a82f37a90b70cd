import TaskPlan.Graph.Closure
import TaskPlan.Graph.Cycle
import TaskPlan.Task.Node

/-!
# Task graphs

Tasks by their labels with the graph of their dependencies. A dependency on a task
that has been replaced leaves the graph and is kept as the task id it was replaced
by. `TaskGraph.erase` and `TaskGraph.replace` take a task out of the graph.
-/

namespace TaskPlan

structure TaskGraph where
  tasks : KeyMap Task
  graph : Graph
  /-- label and dependency name to the id of the task that replaced the dependency -/
  external : KeyMap (KeyMap String)
deriving DecidableEq, Inhabited

namespace TaskGraph

def empty : TaskGraph := ⟨.empty, .empty, .empty⟩

def collect : List Task → KeyMap Task → Result (KeyMap Task)
  | [], done => .ok done
  | task :: rest, done =>
    if done.contains task.label then
      .error (.graph (.duplicateLabel task.label) [task.label])
    else collect rest (done.insert task.label task)

def declaredEdges (task : Task) : List Edge :=
  task.dependencies.toList.map fun entry => ⟨task.label, entry.2, entry.1⟩

/-- The graph of tasks with different labels whose dependencies are among them and
do not run in a circle. -/
def ofTasks (tasks : List Task) : Result TaskGraph := do
  let tasks ← collect tasks .empty
  let graph ← Graph.ofParts (.ofList tasks.keys) (.ofList (tasks.values.flatMap declaredEdges))
  return ⟨tasks, graph, .empty⟩

def get? (g : TaskGraph) (label : String) : Option Task := g.tasks.get? label

def labels (g : TaskGraph) : List String := g.tasks.keys

def size (g : TaskGraph) : Nat := g.tasks.size

def postorder (g : TaskGraph) : List Task := g.graph.postorder.filterMap g.get?

def dependencies (g : TaskGraph) (label : String) : KeyMap String := g.graph.named label

def externalOf (g : TaskGraph) (label : String) : KeyMap String :=
  (g.external.get? label).getD .empty

def missing (label : String) : Error := .graph (.noTask label) [label]

/-- The graph without a task. Its dependents lose the edge to it. -/
def erase (g : TaskGraph) (label : String) : Result TaskGraph :=
  if g.tasks.contains label then
    .ok ⟨g.tasks.erase label, g.graph.erase label, g.external.erase label⟩
  else .error (missing label)

def addExternal (taskId : String) (external : KeyMap (KeyMap String)) (edge : Edge) :
    KeyMap (KeyMap String) :=
  external.insert edge.dependent
    (((external.get? edge.dependent).getD .empty).insert edge.name taskId)

/-- The graph with an existing task in the place of one of its own. Its dependents
keep the dependency as that task's id. -/
def replace (g : TaskGraph) (label taskId : String) : Result TaskGraph :=
  if g.tasks.contains label then
    let edges := g.graph.edges.toList.filter fun e => e.dependency == label
    .ok ⟨g.tasks.erase label, g.graph.erase label,
      edges.foldl (addExternal taskId) (g.external.erase label)⟩
  else .error (missing label)

/-- The tasks with these labels and all they depend upon. -/
def subgraph (g : TaskGraph) (labels : SortedSet String) : Result TaskGraph := do
  let graph ← g.graph.closure labels
  return ⟨g.tasks.filter fun label _ => graph.contains label, graph,
    g.external.filter fun label _ => graph.contains label⟩

/-! ### As data -/

def encode (g : TaskGraph) : Json := .ofMap Task.encode g.tasks

def labelled (label : String) : Json → Json
  | .obj fields =>
    if Fields.contains fields "label" then .obj fields
    else .obj (Fields.insert fields "label" (.str label))
  | value => value

def decodeEntry (entry : String × Json) : Result Task :=
  match Task.decode? (labelled entry.1 entry.2) with
  | none => .error .json
  | some task =>
    if task.label = entry.1 then .ok task
    else .error (.graph (.mislabelled entry.1 task.label) [entry.1])

def decode : Json → Result TaskGraph
  | .obj entries => do
    let tasks ← entries.mapM decodeEntry
    ofTasks tasks
  | value => .error (.config (.taskGraphNotMapping value))

end TaskGraph

end TaskPlan
