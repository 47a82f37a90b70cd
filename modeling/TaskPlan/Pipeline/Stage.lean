import TaskPlan.KeyedBy.Evaluate
import TaskPlan.Pipeline.Basic
import TaskPlan.Shape.Check
import TaskPlan.TaskDescription.Build
import TaskPlan.TaskDescription.Shape

/-!
# Stages

The stages that every kind has after its own, and simple ones to build pipelines of.
The standard stages label a job, check its description, choose the alternatives of
its keyed-by fields and build the task.
-/

namespace TaskPlan

namespace Stage

variable [Regex.Engine]

/-- A job with a name alone is labelled after its kind and its name. -/
def label (config : StageConfig) (job : Job) : Result Job :=
  match job.label? with
  | some _ => .ok job
  | none =>
    match job.name? with
    | some name => .ok (job.insert "label" (.str (config.kind ++ "-" ++ name)))
    | none => .error (.stage "label-from-name" Job.unlabelled (.unnamedJob config.kind))

def labelFromName : Stage := ⟨"label-from-name", .map label⟩

def checkShape (shape : Shape) (config : StageConfig) (job : Job) : Result Job := do
  let checked ← Shape.validate shape job.value
    s!"In {config.kind} task '{job.displayLabel}':"
  Job.ofValue checked

def validate (name : String) (shape : Shape) : Stage := ⟨name, .map (checkShape shape)⟩

def resolveKeyedBy (fields : List String) : Stage :=
  ⟨"resolve-keyed-by",
    .map fun config job => KeyedBy.resolveAll fields job.displayLabel config.params job⟩

def buildTask : Stage := ⟨"build-task", .map TaskDescription.build⟩

def standard : Pipeline :=
  [labelFromName, validate "validate-task-description" TaskDescription.shape,
    resolveKeyedBy TaskDescription.keyedFields, buildTask]

/-! ### Simple stages -/

def set (name key : String) (value : Json) : Stage :=
  ⟨name, .map fun _ job => .ok (job.insert key value)⟩

def failIf (name key : String) : Stage :=
  ⟨name, .map fun _ job =>
    if job.contains key then .error (.stage name job.displayLabel (.text ("has " ++ key)))
    else .ok job⟩

def keepIf (name key : String) : Stage := ⟨name, .filter fun _ job => job.contains key⟩

/-- One copy of a job for each element of the list under a key. -/
def split (name key : String) : Stage :=
  ⟨name, .flatMap fun _ job =>
    match job.get? key with
    | some (.arr items) => .ok (items.map (job.insert key))
    | _ => .error (.stage name job.displayLabel (.text "not a list"))⟩

def watch (name : String) : Stage := ⟨name, .watch⟩

end Stage

end TaskPlan
