import TaskPlan.Json.Decode
import TaskPlan.Time.Instant

/-!
# The index

An index finds results of earlier tasks under paths. `StoredIndex` holds its answers
as data: the task under each path, the status of each task, and paths whose look-up
fails.
-/

namespace TaskPlan

inductive TaskState where
  | unscheduled
  | pending
  | running
  | completed
  | failed
  | exception
  | unknown
deriving DecidableEq, Repr, Inhabited

namespace TaskState

def name : TaskState → String
  | .unscheduled => "unscheduled"
  | .pending => "pending"
  | .running => "running"
  | .completed => "completed"
  | .failed => "failed"
  | .exception => "exception"
  | .unknown => "unknown"

def known : List TaskState := [.unscheduled, .pending, .running, .completed, .failed, .exception]

/-- A name that is none of the known ones is that of an unknown state. -/
def ofName (name : String) : TaskState :=
  (known.find? fun state => state.name == name).getD .unknown

theorem ofName_name (state : TaskState) : ofName state.name = state := by cases state <;> rfl

/-- The name of a state, alone or as the key of null. -/
def decode? : Json → Option TaskState
  | .str name => some (ofName name)
  | .obj [(name, .null)] => some (ofName name)
  | _ => none

def isUsable : TaskState → Bool
  | .failed => false
  | .exception => false
  | _ => true

end TaskState

structure IndexedResult where
  taskId : String
  state : TaskState
  expires : Instant
deriving DecidableEq, Repr

/-- What an index answers for a path: a result, none, or that the look-up failed. -/
abbrev Answer := Except String (Option IndexedResult)

abbrev Index := (path : String) → Answer

structure TaskStatus where
  state : TaskState
  expires : Instant
deriving DecidableEq, Repr

def Instant.decode? : Json → Option Instant
  | .str s => Instant.parse? s
  | _ => none

def TaskStatus.decode? (value : Json) : Option TaskStatus := do
  match ← value.members? ["state", "expires"] false with
  | [state, expires] =>
    let state ← Json.needed TaskState.decode? state
    let expires ← Json.needed Instant.decode? expires
    return ⟨state, expires⟩
  | _ => none

structure StoredIndex where
  paths : KeyMap String
  statuses : KeyMap TaskStatus
  /-- the failures of paths, each as its causes from the outermost on -/
  failures : KeyMap (List String)
deriving Inhabited

namespace StoredIndex

def empty : StoredIndex := ⟨.empty, .empty, .empty⟩

def insert (index : StoredIndex) (path taskId : String) (status : TaskStatus) : StoredIndex :=
  { index with
    paths := index.paths.insert path taskId
    statuses := index.statuses.insert taskId status }

/-- The answer for a path. A task without a status is no result. -/
def answer (index : StoredIndex) : Index := fun path =>
  match index.failures.get? path with
  | some causes => .error (String.intercalate ": " causes)
  | none =>
    .ok do
      let taskId ← index.paths.get? path
      let status ← index.statuses.get? taskId
      return ⟨taskId, status.state, status.expires⟩

def decode? (value : Json) : Option StoredIndex := do
  match ← value.members? ["paths", "statuses"] false with
  | [paths, statuses] =>
    let paths ← Json.needed (Json.asMap Json.asStr) paths
    let statuses ← Json.needed (Json.asMap TaskStatus.decode?) statuses
    return ⟨paths, statuses, .empty⟩
  | _ => none

end StoredIndex

end TaskPlan
