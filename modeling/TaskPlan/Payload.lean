import TaskPlan.Order.SortedSet
import TaskPlan.Task.Worker

/-!
# Payloads

The payload is the part of a task definition that tells a worker what to do. Each
implementation of workers has a builder of its own; `buildPayload` puts the payload
into the definition.
-/

namespace TaskPlan

/-- What a builder sees besides the settings of the worker. -/
structure PayloadContext where
  label : String
  taskId : String
  /-- dependency name to final id -/
  dependencies : KeyMap String
  /-- the task definition, free of placeholders -/
  definition : Json

namespace PayloadContext

def error (context : PayloadContext) (fault : PayloadFault) : Error := .payload context.label fault

def expires (context : PayloadContext) : Json := (context.definition.get? "expires").getD .null

end PayloadContext

/-- Turns the settings of a worker into a payload. -/
abbrev PayloadBuilder := Worker → PayloadContext → Result Json

namespace PayloadBuilder

def mismatch (builder : WorkerKind) (worker : Worker) (context : PayloadContext) : Error :=
  context.error (.mismatch builder.name worker.kind.name)

/-- Where an image is in the task that made it. -/
def imageArtifact : String := "public/image.tar.zst"

/-- The image of a docker worker: a name, one made by a task of the same graph, or
one found in the index. -/
def dockerImage (image : Json) (context : PayloadContext) : Result Json :=
  match image with
  | .str name => .ok (.str name)
  | .obj fields =>
    if Fields.contains fields "in-tree" then
      match context.dependencies.get? "docker-image" with
      | some imageTask =>
        .ok (.obj [("path", .str imageArtifact), ("taskId", .str imageTask),
          ("type", .str "task-image")])
      | none => .error (context.error .missingImageDependency)
    else
      match Fields.get? fields "indexed" with
      | some location =>
        .ok (.obj [("path", .str imageArtifact), ("namespace", location),
          ("type", .str "indexed-image")])
      | none => .error (context.error (.unknownImage image))
  | _ => .error (context.error (.unknownImage image))

/-- Artifacts by name; of several with one name the last counts. -/
def dockerArtifacts (artifacts : List Artifact) (context : PayloadContext) : Json :=
  .obj (Fields.ofList (artifacts.map fun artifact =>
    (artifact.name, .obj [("path", .str artifact.path), ("type", .str artifact.kind),
      ("expires", context.expires)])))

def docker : PayloadBuilder
  | .docker image command env maxRunTime artifacts, context => do
    let image ← dockerImage image context
    return .obj (
      [("image", image), ("env", .ofMap id env)] ++
      (if command.isEmpty then [] else [("command", .arr command)]) ++
      [("maxRunTime", .ofWord maxRunTime)] ++
      (if artifacts.isEmpty then [] else [("artifacts", dockerArtifacts artifacts context)]))
  | worker, context => .error (mismatch .docker worker context)

def genericArtifact (context : PayloadContext) (artifact : Artifact) : Json :=
  .obj [("name", .str artifact.name), ("path", .str artifact.path), ("type", .str artifact.kind),
    ("expires", context.expires)]

def generic : PayloadBuilder
  | .generic _ command env maxRunTime artifacts, context =>
    .ok (.obj [("command", .arr command),
      ("artifacts", .arr (artifacts.map (genericArtifact context))),
      ("env", .ofMap id env), ("maxRunTime", .ofWord maxRunTime)])
  | worker, context => .error (mismatch .generic worker context)

def script : PayloadBuilder
  | .script artifacts payload, _ =>
    .ok (.obj (payload.insert "upstreamArtifacts" (.arr artifacts)))
  | worker, context => .error (mismatch .script worker context)

def alwaysOptimized : PayloadBuilder := fun _ _ => .ok (.obj [])

def ofKind : WorkerKind → PayloadBuilder
  | .docker => docker
  | .generic => generic
  | .script => script
  | .alwaysOptimized => alwaysOptimized

end PayloadBuilder

abbrev PayloadBuilders := WorkerKind → Option PayloadBuilder

namespace PayloadBuilders

def ofKinds (kinds : List WorkerKind) : PayloadBuilders := fun kind =>
  if kinds.contains kind then some (PayloadBuilder.ofKind kind) else none

def standard : PayloadBuilders := ofKinds WorkerKind.all

end PayloadBuilders

def buildPayload (builders : PayloadBuilders) (worker : Worker) (context : PayloadContext) :
    Result Json :=
  match builders worker.kind with
  | none => .error (context.error (.noBuilder worker.kind.name))
  | some builder => do
    let payload ← builder worker context
    match context.definition with
    | .obj fields => return .obj (Fields.insert fields "payload" payload)
    | value => .error (context.error (.definitionNotMapping value))

end TaskPlan
