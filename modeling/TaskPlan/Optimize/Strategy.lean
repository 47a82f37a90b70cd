import TaskPlan.Index.Cache
import TaskPlan.Optimize.Params
import TaskPlan.Reference.Template
import TaskPlan.Task.Node

/-!
# Strategies

A strategy answers for the directives of one tag whether a task may be removed and
which existing task may stand in for it. A registry holds the strategies that an
optimization may use, by tag.
-/

namespace TaskPlan

/-- What a strategy sees of the dependencies of a task and of the run. -/
structure StrategyContext where
  params : OptimizeParams
  /-- dependency name to final id, for the dependencies that were replaced -/
  dependencyIds : KeyMap String
  removed : SortedSet String

namespace StrategyContext

/-- An index path with the ids of dependencies in the place of their names; none if
it names a dependency without a final id. -/
def renderPath (context : StrategyContext) (path : String) : Option String :=
  (Template.render context.dependencyIds.get? path).toOption

end StrategyContext

structure Strategy where
  /-- asked once all dependents of the task have been removed -/
  shouldRemove : Task → Directive → StrategyContext → Except StrategyFault Bool
  /-- the index paths that `shouldReplace` will ask for -/
  lookupPaths : Directive → StrategyContext → List String
  /-- the id of a task to use instead; asked once all dependencies of the task have
  been replaced or removed -/
  shouldReplace : Task → Directive → StrategyContext → Lookup StrategyFault (Option String)

namespace Strategy

def keep : Strategy where
  shouldRemove _ _ _ := .ok false
  lookupPaths _ _ := []
  shouldReplace _ _ _ := pure none

end Strategy

abbrev Registry := KeyMap Strategy

namespace Registry

def find (registry : Registry) (tag : String) : Result Strategy :=
  match registry.get? tag with
  | some strategy => .ok strategy
  | none => .error (.config (.noStrategy tag))

def check (registry : Registry) (task : Task) : Result Unit :=
  let tags := (task.optimization.map Directive.tags).getD []
  match tags.find? fun tag => !registry.contains tag with
  | some tag => .error (.config (.unregisteredDirective task.label tag))
  | none => .ok ()

end Registry

end TaskPlan
