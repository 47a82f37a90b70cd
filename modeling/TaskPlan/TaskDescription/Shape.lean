import TaskPlan.Shape.Basic

/-!
# The shape of task descriptions

What a job must look like before a task is built from it, with the shapes of its
worker and of its optimization.
-/

namespace TaskPlan

namespace TaskDescription

def discriminants : List String := ["project", "level", "build-platform", "build-type", "kind"]

def keyedFields : List String :=
  ["expires-after", "deadline-after", "priority", "run-on-projects", "worker.docker-image",
    "worker.env", "worker.max-run-time"]

def priorities : List String :=
  ["highest", "very-high", "high", "medium", "low", "very-low", "lowest"]

def keyed (inner : Shape) : Shape := .keyedBy discriminants inner

def optimizationShape : Shape :=
  .oneOf [
    .null,
    .record [.required "index-search" (.list .str)] false,
    .record [.required "skip-unless-changed" (.list .str)] false,
    .record [.required "any-of" (.list .any)] false]

def artifactsShape : Shape :=
  .list (.record [
    .required "name" .str,
    .required "path" .str,
    .withDefault "type" (.enumeration ["file", "directory"]) (.str "file")] false)

def implementation (name : String) (settings : List Field) : Shape :=
  .record (.required "implementation" (.literal (.str name)) :: settings) false

/-- The settings of the implementations that run a command. -/
def commandSettings : List Field := [
  .withDefault "command" (.list .any) (.arr []),
  .withDefault "env" (keyed (.map .any)) (.obj []),
  .required "max-run-time" (keyed .int),
  .withDefault "artifacts" artifactsShape (.arr [])]

def workerShape : Shape :=
  .oneOf [
    implementation "docker-worker" (.required "docker-image" (keyed .any) :: commandSettings),
    implementation "generic-worker"
      (.required "os" (.enumeration ["linux", "macosx", "windows"]) :: commandSettings),
    implementation "scriptworker" [
      .withDefault "upstream-artifacts" (.list .any) (.arr []),
      .withDefault "payload" (.map .any) (.obj [])],
    implementation "always-optimized" []]

def shape : Shape :=
  .record [
    .required "label" .str,
    .required "description" .str,
    .optional "name" .str,
    .withDefault "attributes" (.map .any) (.obj []),
    .withDefault "dependencies" (.map .str) (.obj []),
    .optional "expires-after" (keyed .str),
    .optional "deadline-after" (keyed .str),
    .withDefault "routes" (.list .str) (.arr []),
    .withDefault "scopes" (.list .str) (.arr []),
    .withDefault "tags" (.map .str) (.obj []),
    .withDefault "extra" (.map .any) (.obj []),
    .optional "index" (.record [.required "product" .str, .required "job-name" .str] false),
    .optional "run-on-projects" (keyed (.list .str)),
    .optional "priority" (keyed (.enumeration priorities)),
    .withDefault "optimization" optimizationShape .null,
    .required "worker-type" .str,
    .required "worker" workerShape] false

end TaskDescription

end TaskPlan
