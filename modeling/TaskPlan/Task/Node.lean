import TaskPlan.Job
import TaskPlan.Task.Directive
import TaskPlan.Task.Worker

/-!
# Tasks

A job that has gone through all stages: a node of a task graph. `Task.encode`
writes every field, `Task.decode?` fills in those that may be left out.
-/

namespace TaskPlan

structure Task where
  label : String
  kind : String
  attributes : KeyMap Json
  /-- dependency name to the label of the task depended upon -/
  dependencies : KeyMap String
  optimization : Option Directive
  worker : Worker
  /-- the task definition, in which placeholders may stand -/
  definition : Json
deriving DecidableEq, Inhabited

namespace Task

def directiveTag (task : Task) : String :=
  match task.optimization with
  | some directive => directive.tag
  | none => "none"

def fieldNames : List String :=
  ["label", "kind", "attributes", "dependencies", "optimization", "worker", "task"]

def encodeOptimization : Option Directive → Json
  | some directive => directive.encode
  | none => .null

def encode (task : Task) : Json :=
  .obj [("label", .str task.label), ("kind", .str task.kind),
    ("attributes", .ofMap id task.attributes), ("dependencies", .ofMap .str task.dependencies),
    ("optimization", encodeOptimization task.optimization), ("worker", task.worker.encode),
    ("task", task.definition)]

def decode? (value : Json) : Option Task := do
  match ← value.members? fieldNames true with
  | [label, kind, attributes, dependencies, optimization, worker, definition] =>
    let label ← Json.needed Json.asStr label
    let kind ← Json.needed Json.asStr kind
    let attributes ← Json.defaulted (Json.asMap Json.asAny) .empty attributes
    let dependencies ← Json.defaulted (Json.asMap Json.asStr) .empty dependencies
    let optimization ← Json.defaulted (Json.optional Directive.decode?) none optimization
    let worker ← Json.needed Worker.decode? worker
    let definition ← Json.defaulted Json.asAny .null definition
    return ⟨label, kind, attributes, dependencies, optimization, worker, definition⟩
  | _ => none

def ofJob (job : Job) : Result Task :=
  match decode? job.value with
  | some task => .ok task
  | none => .error (.stage "task-node" job.displayLabel .malformedTask)

end Task

end TaskPlan
