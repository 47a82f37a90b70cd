import TaskPlan.Config.Graph
import TaskPlan.TaskGraph

/-!
# Checks

A check sees every task of a graph in turn and then the graph as a whole. It may note
values under texts as it goes; the notes live for one run of that check. Checks are
grouped by the phase of a generation that they belong to.
-/

namespace TaskPlan

abbrev Notes := KeyMap Json

structure Check where
  name : String
  /-- looks at a task, with what was noted before it -/
  onTask : GraphConfig → TaskGraph → Notes → Task → Result Notes := fun _ _ notes _ => .ok notes
  onGraph : GraphConfig → TaskGraph → Notes → Result Unit := fun _ _ _ => .ok ()

namespace Check

/-- A run starts without notes, whatever was run before. -/
def run (check : Check) (config : GraphConfig) (graph : TaskGraph) : Result Unit := do
  let notes ← graph.tasks.values.foldlM (check.onTask config graph) .empty
  check.onGraph config graph notes

end Check

inductive Phase where
  /-- of the graph as generated -/
  | full
  /-- of the part that a run wants -/
  | target
  /-- of the graph that is left by the optimization -/
  | optimized
  | other (name : String)
deriving DecidableEq, Repr

namespace Phase

def ofName : String → Phase
  | "full" => .full
  | "target" => .target
  | "optimized" => .optimized
  | name => .other name

end Phase

abbrev Checks := List (Phase × Check)

namespace Checks

def ofPhase (checks : Checks) (phase : Phase) : List Check :=
  (checks.filter fun entry => entry.1 == phase).map Prod.snd

def names (checks : Checks) (phase : Phase) : List String := (checks.ofPhase phase).map Check.name

/-- Makes the checks of a phase; the first fault counts. -/
def run (checks : Checks) (phase : Phase) (config : GraphConfig) (graph : TaskGraph) : Result Unit :=
  (checks.ofPhase phase).forM fun check => check.run config graph

end Checks

end TaskPlan
