import TaskPlan.Config.Parameters
import TaskPlan.Optimize.Params

/-!
# Run parameters

What a single generation is made for: the moment that relative ones are counted
from, beside what its optimization goes by.
-/

namespace TaskPlan

structure RunParameters where
  generatedAt : Instant
  optimize : OptimizeParams
deriving DecidableEq, Inhabited

namespace RunParameters

/-- Keys that are none of a run's are passed over. -/
def decode? : Json → Option RunParameters
  | .obj fields => do
    let generatedAt ← (Fields.get? fields "generated-at").bind Instant.decode?
    let optimize ← OptimizeParams.decode? (.obj fields)
    return ⟨generatedAt, optimize⟩
  | _ => none

def encodeDeadline : Option Instant → Json
  | some deadline => .str deadline.text
  | none => .null

def encode (run : RunParameters) : Json :=
  let optimize := run.optimize
  let changed := optimize.changedFiles
  .obj [("generated-at", .str run.generatedAt.text), ("deadline", encodeDeadline optimize.deadline),
    ("changed-files", .obj [("files", .ofStrings changed.files), ("tracked", .bool changed.tracked)]),
    ("do-not-optimize", .ofStrings optimize.doNotOptimize.toList),
    ("existing-tasks", .ofMap .str optimize.existingTasks), ("params", .obj optimize.params)]

end RunParameters

end TaskPlan
