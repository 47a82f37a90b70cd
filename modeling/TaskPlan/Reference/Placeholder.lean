import TaskPlan.Error
import TaskPlan.Order.KeyMap
import TaskPlan.Reference.Template
import TaskPlan.Text.Split
import TaskPlan.Time.Instant

/-!
# Placeholders

A mapping whose only key is that of a placeholder stands for a text that is known
only when task ids are final: a moment relative to the generation, the id of a task
or the locator of an artifact. `Resolver.resolve` puts the texts in their place.
-/

namespace TaskPlan

inductive Placeholder where
  | relativeDatestamp
  | taskReference
  | artifactReference
deriving DecidableEq, Repr

namespace Placeholder

def key : Placeholder → String
  | .relativeDatestamp => "relative-datestamp"
  | .taskReference => "task-reference"
  | .artifactReference => "artifact-reference"

def all : List Placeholder := [.relativeDatestamp, .taskReference, .artifactReference]

/-- The placeholder among `kinds` that a mapping is, with its content. -/
def find? (kinds : List Placeholder) : Fields → Option (Placeholder × Json)
  | [(name, content)] =>
    (kinds.find? fun placeholder => placeholder.key == name).map fun placeholder =>
      (placeholder, content)
  | _ => none

mutual

/-- A value with its placeholders of some kinds replaced. Nothing is sought inside
a placeholder. -/
def replace (kinds : List Placeholder) (evaluate : Placeholder → Json → Result Json) :
    Json → Result Json
  | .arr items => (replaceItems kinds evaluate items).map .arr
  | .obj fields =>
    match find? kinds fields with
    | some (placeholder, content) => evaluate placeholder content
    | none => (replaceFields kinds evaluate fields).map .obj
  | value => .ok value
termination_by structural value => value

def replaceItems (kinds : List Placeholder) (evaluate : Placeholder → Json → Result Json) :
    List Json → Result (List Json)
  | [] => .ok []
  | item :: rest => do
    let item ← replace kinds evaluate item
    let rest ← replaceItems kinds evaluate rest
    return item :: rest
termination_by structural items => items

def replaceFields (kinds : List Placeholder) (evaluate : Placeholder → Json → Result Json) :
    List (String × Json) → Result Fields
  | [] => .ok []
  | (key, value) :: rest => do
    let value ← replace kinds evaluate value
    let rest ← replaceFields kinds evaluate rest
    return (key, value) :: rest
termination_by structural fields => fields

end

def content (label : String) (placeholder : Placeholder) : Json → Result String
  | .str s => .ok s
  | value => .error (.stage "resolve-references" label (.placeholderNotText placeholder.key value))

end Placeholder

/-- The root of a deployment whose services have host names of their own. -/
def legacyRootUrl : String := "https://taskcluster.net"

def isLegacyRoot (rootUrl : String) : Bool := Text.trimEnd '/' rootUrl == legacyRootUrl

def artifactUrl (rootUrl taskId artifact : String) : String :=
  let path := s!"task/{taskId}/artifacts/{artifact}"
  if isLegacyRoot rootUrl then "https://queue.taskcluster.net/v1/" ++ path
  else Text.trimEnd '/' rootUrl ++ "/api/queue/v1/" ++ path

def resolveTimestamps (now : Instant) (label : String) (value : Json) : Result Json :=
  Placeholder.replace [.relativeDatestamp] (fun placeholder content => do
    let input ← placeholder.content label content
    match Instant.stampFrom? input now with
    | some stamp => return .str stamp
    | none => .error (.timestamp label input)) value

/-- Whose value is resolved: a task with its own id and those of its dependencies. -/
structure ReferenceContext where
  label : String
  taskId : String
  /-- dependency name to final id -/
  dependencies : KeyMap String

namespace ReferenceContext

/-- The id that a name refers to; `self` is the task itself, unless a dependency has
that name. -/
def idOf? (context : ReferenceContext) (name : String) : Option String :=
  match context.dependencies.get? name with
  | some taskId => some taskId
  | none => if name = "self" then some context.taskId else none

/-- The text that a reference stands for, or the name it refers to in vain. -/
def render (context : ReferenceContext) (rootUrl input : String) :
    Placeholder → Except String String
  | .artifactReference =>
    Template.renderArtifacts context.dependencies.get? (artifactUrl rootUrl) input
  | _ => Template.render context.idOf? input

end ReferenceContext

def resolveReferences (context : ReferenceContext) (rootUrl : String) (value : Json) : Result Json :=
  Placeholder.replace [.taskReference, .artifactReference] (fun placeholder content => do
    let input ← placeholder.content context.label content
    match context.render rootUrl input placeholder with
    | .ok text => return .str text
    | .error name => .error (.unknownDependency context.label name)) value

structure Resolver where
  /-- the moment that relative ones are counted from -/
  now : Instant
  rootUrl : String

namespace Resolver

/-- A value with all its placeholders replaced, relative moments first. -/
def resolve (resolver : Resolver) (context : ReferenceContext) (value : Json) : Result Json := do
  let value ← resolveTimestamps resolver.now context.label value
  resolveReferences context resolver.rootUrl value

end Resolver

end TaskPlan
