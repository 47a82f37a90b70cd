import TaskPlan.Error
import TaskPlan.Json.Decode

/-!
# Workers

What runs a task, with the settings of its implementation. As data a worker is a
mapping that names the implementation beside its settings.
-/

namespace TaskPlan

inductive WorkerKind where
  | docker
  | generic
  | script
  | alwaysOptimized
deriving DecidableEq, Repr, Inhabited

namespace WorkerKind

def all : List WorkerKind := [.docker, .generic, .script, .alwaysOptimized]

def name : WorkerKind → String
  | .docker => "docker-worker"
  | .generic => "generic-worker"
  | .script => "scriptworker"
  | .alwaysOptimized => "always-optimized"

def find? (name : String) : Option WorkerKind := all.find? fun kind => kind.name == name

def ofName (name : String) : Result WorkerKind :=
  match find? name with
  | some kind => .ok kind
  | none => .error (.config (.unknownWorker name))

theorem ofName_name (kind : WorkerKind) : ofName kind.name = .ok kind := by cases kind <;> rfl

end WorkerKind

structure Artifact where
  name : String
  path : String
  kind : String
deriving DecidableEq

namespace Artifact

def encode (artifact : Artifact) : Json :=
  .obj [("name", .str artifact.name), ("path", .str artifact.path), ("type", .str artifact.kind)]

def decode? (value : Json) : Option Artifact := do
  match ← value.members? ["name", "path", "type"] false with
  | [name, path, kind] =>
    let name ← Json.needed Json.asStr name
    let path ← Json.needed Json.asStr path
    let kind ← Json.defaulted Json.asStr "file" kind
    return ⟨name, path, kind⟩
  | _ => none

end Artifact

inductive Worker where
  | docker (image : Json) (command : List Json) (env : KeyMap Json) (maxRunTime : UInt64)
      (artifacts : List Artifact)
  | generic (os : String) (command : List Json) (env : KeyMap Json) (maxRunTime : UInt64)
      (artifacts : List Artifact)
  | script (upstreamArtifacts : List Json) (payload : Fields)
  /-- for a task that exists only to be optimized away -/
  | alwaysOptimized
deriving DecidableEq

namespace Worker

instance : Inhabited Worker := ⟨.alwaysOptimized⟩

def kind : Worker → WorkerKind
  | .docker .. => .docker
  | .generic .. => .generic
  | .script .. => .script
  | .alwaysOptimized => .alwaysOptimized

def encodeSettings : Worker → Fields
  | .docker image command env maxRunTime artifacts =>
    [("docker-image", image), ("command", .arr command), ("env", .ofMap id env),
      ("max-run-time", .ofWord maxRunTime), ("artifacts", .arr (artifacts.map Artifact.encode))]
  | .generic os command env maxRunTime artifacts =>
    [("os", .str os), ("command", .arr command), ("env", .ofMap id env),
      ("max-run-time", .ofWord maxRunTime), ("artifacts", .arr (artifacts.map Artifact.encode))]
  | .script upstreamArtifacts payload =>
    [("upstream-artifacts", .arr upstreamArtifacts), ("payload", .obj payload)]
  | .alwaysOptimized => []

def encode (worker : Worker) : Json :=
  .obj (("implementation", .str worker.kind.name) :: worker.encodeSettings)

def decodeSettings? (settings : Json) : WorkerKind → Option Worker
  | .docker => do
    match ← settings.members? ["docker-image", "command", "env", "max-run-time", "artifacts"] false with
    | [image, command, env, maxRunTime, artifacts] =>
      let image ← Json.needed Json.asAny image
      let command ← Json.defaulted (Json.asList Json.asAny) [] command
      let env ← Json.defaulted (Json.asMap Json.asAny) .empty env
      let maxRunTime ← Json.needed Json.word? maxRunTime
      let artifacts ← Json.defaulted (Json.asList Artifact.decode?) [] artifacts
      return .docker image command env maxRunTime artifacts
    | _ => none
  | .generic => do
    match ← settings.members? ["os", "command", "env", "max-run-time", "artifacts"] false with
    | [os, command, env, maxRunTime, artifacts] =>
      let os ← Json.needed Json.asStr os
      let command ← Json.defaulted (Json.asList Json.asAny) [] command
      let env ← Json.defaulted (Json.asMap Json.asAny) .empty env
      let maxRunTime ← Json.needed Json.word? maxRunTime
      let artifacts ← Json.defaulted (Json.asList Artifact.decode?) [] artifacts
      return .generic os command env maxRunTime artifacts
    | _ => none
  | .script => do
    match ← settings.members? ["upstream-artifacts", "payload"] false with
    | [upstreamArtifacts, payload] =>
      let upstreamArtifacts ← Json.defaulted (Json.asList Json.asAny) [] upstreamArtifacts
      let payload ← Json.defaulted Json.asFields [] payload
      return .script upstreamArtifacts payload
    | _ => none
  | .alwaysOptimized =>
    match settings with
    | .obj _ => some .alwaysOptimized
    | .arr [] => some .alwaysOptimized
    | _ => none

/-- In a list the name of the implementation stands before the settings. -/
def decode? : Json → Option Worker
  | .obj fields => do
    let name ← (Fields.get? fields "implementation").bind Json.asStr
    let kind ← WorkerKind.find? name
    decodeSettings? (.obj (Fields.erase fields "implementation")) kind
  | .arr (.str name :: settings) => (WorkerKind.find? name).bind (decodeSettings? (.arr settings))
  | _ => none

end Worker

end TaskPlan
