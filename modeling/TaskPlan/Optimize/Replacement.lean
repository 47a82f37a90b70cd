import TaskPlan.Optimize.Removal

/-!
# Replacement

The second pass of an optimization goes from dependencies to dependents, a layer of
the graph at a time. A task may be replaced once all its dependencies have been
replaced or removed. The index is asked for the paths of a whole layer before the
tasks of the layer are decided.
-/

namespace TaskPlan

namespace Optimize

/-- A task that may be replaced, with what its strategy sees. -/
structure Candidate where
  task : Task
  directive : Directive
  context : StrategyContext

/-- The ids of the replaced dependencies and the names of the removed ones, by name;
none if some dependency is neither. -/
def finalize (removed : SortedSet String) (replaced : KeyMap String) :
    List (String × String) → Option (List (String × String) × List String)
  | [] => some ([], [])
  | (name, dependency) :: rest =>
    match replaced.get? dependency with
    | some taskId => do
      let (ids, names) ← finalize removed replaced rest
      return ((name, taskId) :: ids, names)
    | none =>
      if dependency ∈ removed then do
        let (ids, names) ← finalize removed replaced rest
        return (ids, name :: names)
      else none

def candidate? (params : OptimizeParams) (input : TaskGraph) (removed : SortedSet String)
    (replaced : KeyMap String) (label : String) : Option Candidate := do
  if label ∈ removed || !params.isFree label then none
  let task ← input.get? label
  let directive ← task.optimization
  let (ids, names) ← finalize removed replaced (input.dependencies label).toList
  return ⟨task, directive, ⟨params, .ofList ids, .ofList names⟩⟩

def replaceExisting (params : OptimizeParams) (removed : SortedSet String) (layer : List String)
    (replaced : KeyMap String) : KeyMap String :=
  layer.foldl (fun replaced label =>
    if label ∈ removed then replaced
    else
      match params.existingTasks.get? label with
      | some taskId => replaced.insert label taskId
      | none => replaced) replaced

def candidatePaths (registry : Registry) (candidate : Candidate) : Result (List String) := do
  let strategy ← registry.find candidate.directive.tag
  return strategy.lookupPaths candidate.directive candidate.context

def replaceCandidate (registry : Registry) (replaced : KeyMap String) (candidate : Candidate) :
    Lookup Error (KeyMap String) := do
  let strategy ← Lookup.ofResult (registry.find candidate.directive.tag)
  let found ← Lookup.mapError (strategyError candidate.task)
    (strategy.shouldReplace candidate.task candidate.directive candidate.context)
  match found with
  | some taskId => return replaced.insert candidate.task.label taskId
  | none => return replaced

def replaceLayer (registry : Registry) (params : OptimizeParams) (input : TaskGraph)
    (removed : SortedSet String) (replaced : KeyMap String) (layer : List String) :
    Lookup Error (KeyMap String) := do
  let replaced := replaceExisting params removed layer replaced
  let candidates := layer.filterMap (candidate? params input removed replaced)
  let paths ← Lookup.ofResult (candidates.mapM (candidatePaths registry))
  Lookup.prefetch (.ofList paths.flatten)
  candidates.foldlM (replaceCandidate registry) replaced

/-- The labels of the tasks to replace, with the ids of the tasks to use instead. -/
def replacements (registry : Registry) (params : OptimizeParams) (input : TaskGraph)
    (removed : SortedSet String) : Lookup Error (KeyMap String) :=
  input.graph.layers.foldlM (replaceLayer registry params input removed) .empty

end Optimize

end TaskPlan
