import TaskPlan.Job
import TaskPlan.KeyedBy.Basic
import TaskPlan.Pattern.Regex.Parse

/-!
# Evaluating keyed-by values

`KeyedBy.evaluate` replaces a keyed-by mapping by one of its alternatives until
none is left: the alternative under the discriminant's own text, else the only one
whose key matches the whole text as a pattern, else the default.
`KeyedBy.resolve` does so for the value at a path of a job.
-/

namespace TaskPlan

namespace KeyedBy

variable [Regex.Engine]

/-- Whether a key, put between anchors as it stands, matches `text` as a pattern.
A key that makes no pattern there matches nothing. -/
def keyMatches (key text : String) : Bool := Regex.Engine.isMatch (Regex.anchored key) text

inductive Choice where
  | key (key : String)
  /-- several keys match as patterns -/
  | ambiguous (keys : List String)
  | nothing
deriving DecidableEq, Repr

def chooseDefault (alternatives : Fields) : Choice :=
  if alternatives.contains defaultKey then .key defaultKey else .nothing

def patternKeys (alternatives : Fields) (text : String) : List String :=
  alternatives.keys.filter fun key => key != defaultKey && keyMatches key text

def choose (alternatives : Fields) : Option String → Choice
  | none => chooseDefault alternatives
  | some text =>
    if alternatives.contains text then .key text
    else match patternKeys alternatives text with
      | [] => chooseDefault alternatives
      | [key] => .key key
      | keys => .ambiguous keys

/-- How the values of discriminants are found, and where the value belongs. -/
structure Setting where
  field : String
  context : String
  lookup : String → Option Json

def Setting.unresolved (setting : Setting) (name : String) (text : Option String) : Error :=
  .unresolvedKey setting.field (text.getD ("<no " ++ name ++ ">")) setting.context

mutual

def evaluate (setting : Setting) : Json → Result Json
  | .obj [(key, .obj alternatives)] =>
    match Text.after? marker key with
    | none => .ok (.obj [(key, .obj alternatives)])
    | some name =>
      let text := (setting.lookup name).bind discriminantText
      match choose alternatives text with
      | .ambiguous keys => .error (.ambiguousKey setting.field setting.context keys)
      | .nothing => .error (setting.unresolved name text)
      | .key chosen => evaluateUnder setting (setting.unresolved name text) chosen alternatives
  | value => .ok value
termination_by structural value => value

def evaluateUnder (setting : Setting) (missing : Error) (chosen : String) :
    List (String × Json) → Result Json
  | [] => .error missing
  | (key, value) :: rest =>
    if key = chosen then evaluate setting value
    else evaluateUnder setting missing chosen rest
termination_by structural alternatives => alternatives

end

/-- Discriminants of a job are its own values, by dotted path, then those of `params`. -/
def jobSetting (job : Job) (field context : String) (params : Fields) : Setting :=
  ⟨field, context, fun name => (job.getPath name).or (params.get? name)⟩

/-- The job with the value at `field` evaluated, and that value; the job as it is
if it has no such field. -/
def resolve (job : Job) (field context : String) (params : Fields) : Result (Option Json × Job) :=
  match job.getPath field with
  | none => .ok (none, job)
  | some value =>
    (evaluate (jobSetting job field context params) value).map fun resolved =>
      (some resolved, (job.setPath field resolved).getD job)

def resolveAll (fields : List String) (context : String) (params : Fields) (job : Job) : Result Job :=
  fields.foldlM (fun job field => (resolve job field context params).map Prod.snd) job

end KeyedBy

end TaskPlan
