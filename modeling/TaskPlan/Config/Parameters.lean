import TaskPlan.Error
import TaskPlan.KeyedBy.Basic

/-!
# Parameters

The free-form values that a run is made with.
-/

namespace TaskPlan

abbrev Parameters := Fields

namespace Parameters

def text? (params : Parameters) (key : String) : Option String :=
  (Fields.get? params key).bind Json.str?

def required (params : Parameters) (key : String) : Except ConfigFault String :=
  match text? params key with
  | some s => .ok s
  | none => .error (.missingParameter key)

def project? (params : Parameters) : Option String := text? params "project"

/-- A parameter as text, in the way in which it would choose an alternative. -/
def asText? (params : Parameters) (key : String) : Option String :=
  (Fields.get? params key).bind KeyedBy.discriminantText

def ofDocument : Json → Result Parameters
  | .obj fields => .ok fields
  | .null => .ok []
  | value => .error (.config (.parametersNotMapping value))

def ofJson : Json → Result Parameters
  | .obj fields => .ok fields
  | value => .error (.config (.parametersNotMapping value))

end Parameters

end TaskPlan
