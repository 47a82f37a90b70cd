import TaskPlan.Optimize.Strategy
import TaskPlan.TaskGraph

/-!
# Removal

The first pass of an optimization goes from dependents to dependencies. A task is
removed if its strategy says so and all its dependents have been removed, so that
no task loses a dependency it needs.
-/

namespace TaskPlan

namespace Optimize

def strategyError (task : Task) (fault : StrategyFault) : Error :=
  .strategy task.label task.directiveTag fault

/-- Whether a task is to be removed, when those in `removed` already are. -/
def shouldRemove (registry : Registry) (params : OptimizeParams) (input : TaskGraph)
    (removed : SortedSet String) (label : String) : Result Bool :=
  if !params.isFree label then .ok false
  else if !(input.graph.dependents label).toList.all fun d => decide (d ∈ removed) then .ok false
  else
    match input.get? label with
    | none => .ok false
    | some task =>
      match task.optimization with
      | none => .ok false
      | some directive => do
        let strategy ← registry.find directive.tag
        (strategy.shouldRemove task directive ⟨params, .empty, .empty⟩).mapError (strategyError task)

def removalStep (registry : Registry) (params : OptimizeParams) (input : TaskGraph)
    (removed : SortedSet String) (label : String) : Result (SortedSet String) := do
  if ← shouldRemove registry params input removed label then return removed.insert label
  else return removed

def removals (registry : Registry) (params : OptimizeParams) (input : TaskGraph) :
    Result (SortedSet String) :=
  input.graph.preorder.foldlM (removalStep registry params input) .empty

end Optimize

end TaskPlan
