import TaskPlan.Index.Basic
import TaskPlan.Order.SortedSet

/-!
# What an optimization goes by

The inputs of one run that decide which tasks may be removed or replaced. As data
every one of them may be left out.
-/

namespace TaskPlan

/-- The files that a push changed. A run without such information has none tracked. -/
structure ChangedFiles where
  files : List String
  tracked : Bool
deriving DecidableEq, Repr, Inhabited

namespace ChangedFiles

def untracked : ChangedFiles := ⟨[], false⟩

def decode? (value : Json) : Option ChangedFiles := do
  match ← value.members? ["files", "tracked"] false with
  | [files, tracked] =>
    let files ← Json.defaulted (Json.asList Json.asStr) [] files
    let tracked ← Json.defaulted Json.asBool false tracked
    return ⟨files, tracked⟩
  | _ => none

end ChangedFiles

structure OptimizeParams where
  /-- results of the index must expire after this instant -/
  deadline : Option Instant
  changedFiles : ChangedFiles
  doNotOptimize : SortedSet String
  /-- label to the id of an existing task to use in its place -/
  existingTasks : KeyMap String
  params : Fields
deriving DecidableEq, Inhabited

namespace OptimizeParams

def empty : OptimizeParams := ⟨none, .untracked, .empty, .empty, []⟩

/-- Whether the strategies may be asked to remove or replace a task. -/
def isFree (params : OptimizeParams) (label : String) : Bool :=
  !(decide (label ∈ params.doNotOptimize) || params.existingTasks.contains label)

def fieldNames : List String :=
  ["deadline", "changed-files", "do-not-optimize", "existing-tasks", "params"]

def decode? (value : Json) : Option OptimizeParams := do
  match ← value.members? fieldNames false with
  | [deadline, changedFiles, doNotOptimize, existingTasks, params] =>
    let deadline ← Json.defaulted (Json.optional Instant.decode?) none deadline
    let changedFiles ← Json.defaulted ChangedFiles.decode? .untracked changedFiles
    let doNotOptimize ← Json.defaulted (Json.asList Json.asStr) [] doNotOptimize
    let existingTasks ← Json.defaulted (Json.asMap Json.asStr) .empty existingTasks
    let params ← Json.defaulted Json.asFields [] params
    return ⟨deadline, changedFiles, .ofList doNotOptimize, existingTasks, params⟩
  | _ => none

end OptimizeParams

end TaskPlan
