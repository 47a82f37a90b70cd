import TaskPlan.Optimize.Replacement

/-!
# Optimization

`optimize` decides for every task whether it is kept, replaced by an existing task or
removed, and takes the replaced and the removed tasks out of the graph. Tasks that
are kept get ids in the order of the graph, dependencies first.
-/

namespace TaskPlan

inductive Decision where
  | keep
  | replaced (taskId : String)
  | removed
deriving DecidableEq, Repr

namespace Decision

def encode : Decision → Json
  | .keep => .obj [("decision", .str "keep")]
  | .replaced taskId => .obj [("decision", .str "replaced"), ("task_id", .str taskId)]
  | .removed => .obj [("decision", .str "removed")]

end Decision

/-- The id of the task that is kept at a position, counted from 0. -/
abbrev TaskIds := (position : Nat) → (label : String) → String

namespace TaskIds

def sequential (beginning : String) : TaskIds := fun position _ => beginning ++ toString position

end TaskIds

/-- The tasks that are kept, and what was decided about each task. -/
structure OptimizedGraph where
  graph : TaskGraph
  decisions : KeyMap Decision
  /-- label to final id, of the tasks that are kept or replaced -/
  taskIds : KeyMap String
deriving Inhabited

namespace OptimizedGraph

def internalIds (g : OptimizedGraph) (label : String) :
    List (String × String) → Result (List (String × String))
  | [] => .ok []
  | (name, dependency) :: rest =>
    match g.taskIds.get? dependency with
    | some taskId => do
      let ids ← g.internalIds label rest
      return (name, taskId) :: ids
    | none => .error (.graph (.noDependencyId label dependency) [label, dependency])

def dependencyIds (g : OptimizedGraph) (label : String) : Result (KeyMap String) := do
  let ids ← g.internalIds label (g.graph.dependencies label).toList
  return .ofList ((g.graph.externalOf label).toList ++ ids)

def count (g : OptimizedGraph) (p : Decision → Bool) : Nat := (g.decisions.values.filter p).length

def kept (g : OptimizedGraph) : Nat := g.count fun decision => decision == .keep

def removed (g : OptimizedGraph) : Nat := g.count fun decision => decision == .removed

def replaced (g : OptimizedGraph) : Nat :=
  g.count fun
    | .replaced _ => true
    | _ => false

end OptimizedGraph

namespace Optimize

def decisionOf (removed : SortedSet String) (replaced : KeyMap String) (label : String) : Decision :=
  if label ∈ removed then .removed
  else
    match replaced.get? label with
    | some taskId => .replaced taskId
    | none => .keep

/-- Final ids of the labels that have one; `position` labels before them are kept. -/
def finalIds (ids : TaskIds) (decisionFor : String → Decision) :
    (position : Nat) → List String → List (String × String)
  | _, [] => []
  | position, label :: rest =>
    match decisionFor label with
    | .removed => finalIds ids decisionFor position rest
    | .replaced taskId => (label, taskId) :: finalIds ids decisionFor position rest
    | .keep => (label, ids position label) :: finalIds ids decisionFor (position + 1) rest

def survivors (input : TaskGraph) (removed : SortedSet String) (replaced : KeyMap String) :
    Result TaskGraph := do
  let g ← removed.toList.foldlM TaskGraph.erase input
  replaced.toList.foldlM (fun g entry => g.replace entry.1 entry.2) g

def settle (ids : TaskIds) (input : TaskGraph) (removed : SortedSet String)
    (replaced : KeyMap String) : Result OptimizedGraph := do
  let decisionFor := decisionOf removed replaced
  let order := input.graph.postorder
  let graph ← survivors input removed replaced
  return ⟨graph, .ofList (order.map fun label => (label, decisionFor label)),
    .ofList (finalIds ids decisionFor 0 order)⟩

end Optimize

/-- Optimizes a task graph. Every directive must have its strategies registered. -/
def optimize (registry : Registry) (ids : TaskIds) (params : OptimizeParams) (input : TaskGraph) :
    Lookup Error OptimizedGraph := do
  Lookup.ofResult (input.tasks.values.forM registry.check)
  let removed ← Lookup.ofResult (Optimize.removals registry params input)
  let replaced ← Optimize.replacements registry params input removed
  Lookup.ofResult (Optimize.settle ids input removed replaced)

end TaskPlan
