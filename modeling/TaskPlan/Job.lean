import TaskPlan.Error
import TaskPlan.Text.Split

/-!
# Job descriptions

A job is a free-form mapping while it goes through the stages of a pipeline. Its
places are named by dotted paths: `Job.getPath` and `Job.setPath` read and write
the place at the end of a path, whose other segments must lead through mappings.
-/

namespace TaskPlan

namespace Fields

def getAt : List String → Fields → Option Json
  | [], _ => none
  | [key], fields => fields.get? key
  | key :: rest, fields =>
    match fields.get? key with
    | some (.obj inner) => getAt rest inner
    | _ => none

/-- Sets the value at the end of a path of keys, where every key but the last one
leads to a mapping. -/
def setAt : List String → Json → Fields → Option Fields
  | [], _, _ => none
  | [key], value, fields => some (fields.insert key value)
  | key :: rest, value, fields =>
    match fields.get? key with
    | some (.obj inner) => (setAt rest value inner).map fun inner => fields.insert key (.obj inner)
    | _ => none

end Fields

/-- The keys of a dotted path; there is always one. -/
def segments (path : String) : List String := Text.splitOn '.' path

structure Job where
  fields : Fields
deriving DecidableEq, Inhabited

namespace Job

/-- The name in messages of a job that has no label yet. -/
def unlabelled : String := "?no-label?"

def empty : Job := ⟨[]⟩

def ofValue : Json → Result Job
  | .obj fields => .ok ⟨fields⟩
  | value => .error (.config (.jobNotMapping value))

def value (job : Job) : Json := .obj job.fields

def get? (job : Job) (key : String) : Option Json := job.fields.get? key

def text? (job : Job) (key : String) : Option String := (job.get? key).bind Json.str?

def label? (job : Job) : Option String := job.text? "label"

def displayLabel (job : Job) : String := job.label?.getD unlabelled

def name? (job : Job) : Option String := job.text? "name"

def insert (job : Job) (key : String) (value : Json) : Job := ⟨job.fields.insert key value⟩

def erase (job : Job) (key : String) : Job := ⟨job.fields.erase key⟩

def contains (job : Job) (key : String) : Bool := job.fields.contains key

/-- The value at a dotted path such as `worker.max-run-time`. -/
def getPath (job : Job) (path : String) : Option Json := Fields.getAt (segments path) job.fields

/-- The job with the value at a dotted path set, or `none` if some segment before
the last one does not lead to a mapping. -/
def setPath (job : Job) (path : String) (value : Json) : Option Job :=
  (Fields.setAt (segments path) value job.fields).map Job.mk

end Job

end TaskPlan
