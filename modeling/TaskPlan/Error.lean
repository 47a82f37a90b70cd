import TaskPlan.Json.Print
import TaskPlan.Text.Quoted

/-!
# Failures

Every failure is kept as its cause. `Error.message` is the sentence that reports
it and `Error.code` a stable name for callers that branch on its kind. The faults
of each part have a type of their own, with a constructor `text` for a fault that
a caller words itself.
-/

namespace TaskPlan

/-- One way in which a value does not fit a shape, with the dotted path of the place. -/
structure Violation where
  path : String
  message : String
deriving DecidableEq, Repr

namespace Violation

def text (v : Violation) : String := if v.path.isEmpty then v.message else v.path ++ ": " ++ v.message

end Violation

/-- Why a graph, or a set of tasks, is not consistent. -/
inductive GraphFault where
  /-- an edge under a name has an end that is no node -/
  | unknownEndpoint (label name : String)
  | cycle
  | unknownLabel (label : String)
  | duplicateLabel (label : String)
  | noTask (label : String)
  /-- the entry for one label holds a task with another -/
  | mislabelled (entry label : String)
  | noDependencyId (label dependency : String)
  | noTaskId (label : String)
  | text (message : String)
deriving DecidableEq, Repr

namespace GraphFault

def message : GraphFault → String
  | .unknownEndpoint label name => s!"unknown label '{label}' in dependency '{name}'"
  | .cycle => "dependency cycle detected"
  | .unknownLabel label => s!"unknown label '{label}'"
  | .duplicateLabel label => s!"duplicate task label '{label}'"
  | .noTask label => s!"no task labelled '{label}'"
  | .mislabelled entry label => s!"entry '{entry}' carries label '{label}'"
  | .noDependencyId label dependency =>
    s!"'{label}' depends on '{dependency}', which has no task id"
  | .noTaskId label => s!"surviving task '{label}' has no task id"
  | .text message => message

end GraphFault

/-- Why a configuration, a parameter set or another input document is refused. -/
inductive ConfigFault where
  | jobNotMapping (value : Json)
  | unknownWorker (name : String)
  | unregisteredDirective (label tag : String)
  | noStrategy (tag : String)
  | taskGraphNotMapping (value : Json)
  | unsupportedVersion (version : Nat)
  | emptyTrustDomain
  | missingParameter (key : String)
  | parametersNotMapping (value : Json)
  | expiryNotText (value : Json)
  | duplicateKinds
  | badKindDependencies (kind : String)
  | jobsNotMapping (kind : String) (value : Json)
  | unnamedKind (directory : String)
  | unwalkable
  | missingArgument (name : String)
  | absoluteInclude (path : String)
  | outsideInclude (path : String)
  | missingInclude (path : String)
  | text (message : String)
deriving DecidableEq, Repr

namespace ConfigFault

def message : ConfigFault → String
  | .jobNotMapping value => s!"job description must be a mapping, got {value.text}"
  | .unknownWorker name => s!"Invalid worker implementation: {name}"
  | .unregisteredDirective label tag =>
    s!"task '{label}' uses optimization '{tag}', which has no registered strategy"
  | .noStrategy tag => s!"no strategy registered for optimization '{tag}'"
  | .taskGraphNotMapping value => s!"task graph JSON must be a mapping, got {value.text}"
  | .unsupportedVersion version => s!"unsupported config version {version} (supported: [1])"
  | .emptyTrustDomain => "trust-domain must not be empty"
  | .missingParameter key => s!"missing string parameter '{key}'"
  | .parametersNotMapping value => s!"parameters must be a mapping, got {value.text}"
  | .expiryNotText value => s!"expires-after default is not a string: {value.text}"
  | .duplicateKinds => "duplicate kind names"
  | .badKindDependencies kind => s!"kind {kind}: bad kind-dependencies: "
  | .jobsNotMapping kind value => s!"kind {kind}: jobs must be a mapping, got {value.text}"
  | .unnamedKind directory => s!"{directory} has no kind name"
  | .unwalkable => "cannot walk "
  | .missingArgument name => s!"missing argument: {name}"
  | .absoluteInclude path => s!"extra include path cannot be absolute: {path}"
  | .outsideInclude path => s!"extra include path outside topsrcdir: {path}"
  | .missingInclude path => s!"extra include path does not exist: {path}"
  | .text message => message

end ConfigFault

inductive StrategyFault where
  /-- a strategy was asked about a directive of another one -/
  | mismatch (strategy directive : String)
  | unregistered (tag : String)
  | lookup (message : String)
  | text (message : String)
deriving DecidableEq, Repr

namespace StrategyFault

def message : StrategyFault → String
  | .mismatch strategy directive => s!"strategy {strategy} cannot evaluate a {directive} directive"
  | .unregistered tag => s!"no strategy registered for {tag}"
  | .lookup message => message
  | .text message => message

end StrategyFault

inductive StageFault where
  | malformedTask
  | placeholderNotText (key : String) (value : Json)
  | unnamedJob (kind : String)
  | missingLabel
  | levelRequired (template : String)
  | badWorkerType (workerType : String)
  | config (fault : ConfigFault)
  | text (message : String)
deriving DecidableEq, Repr

namespace StageFault

def message : StageFault → String
  | .malformedTask => "malformed task: "
  | .placeholderNotText key value => s!"{key} must be a string, got {value.text}"
  | .unnamedJob kind => s!"{kind} job has neither a label nor a name"
  | .missingLabel => "missing label"
  | .levelRequired template => s!"'{template}' needs the 'level' parameter"
  | .badWorkerType workerType =>
    s!"worker-type '{workerType}' is not of the form provisioner/worker-type"
  | .config fault => "Configuration error: " ++ fault.message
  | .text message => message

end StageFault

inductive PayloadFault where
  | mismatch (builder worker : String)
  | missingImageDependency
  | unknownImage (image : Json)
  | noBuilder (worker : String)
  | definitionNotMapping (value : Json)
  | invalidWorker
  | text (message : String)
deriving DecidableEq, Repr

namespace PayloadFault

def message : PayloadFault → String
  | .mismatch builder worker => s!"{builder} payload builder cannot handle a {worker} worker"
  | .missingImageDependency => "in-tree docker image needs a 'docker-image' dependency"
  | .unknownImage image => s!"unknown docker image type: {image.text}"
  | .noBuilder worker => s!"no payload builder for {worker}"
  | .definitionNotMapping value => s!"task definition is not a mapping: {value.text}"
  | .invalidWorker => "resolved worker no longer valid: "
  | .text message => message

end PayloadFault

/-- What a check found: a route or a symbol that comes with a label and that something is noted
under already, or a dependency of a higher tier. A tier of `none` is unknown. -/
inductive CheckFault where
  | sharedRoute (label : String) (other : Json) (route : String)
  | sharedSymbol (label : String) (other : Json) (symbol : String)
  | higherTier (label : String) (tier : Option Nat) (dependency : String)
      (dependencyTier : Option Nat)
  | text (message : String)
deriving DecidableEq, Repr

namespace CheckFault

def tierText : Option Nat → String
  | some tier => toString tier
  | none => "unknown"

def message : CheckFault → String
  | .sharedRoute label other route =>
    s!"conflict between {label}:{other.text} for route: {route}"
  | .sharedSymbol label other symbol =>
    "conflict between `" ++ label ++ "`:`" ++ other.text ++ "` for values `" ++ symbol ++ "`"
  | .higherTier label tier dependency dependencyTier =>
    s!"{label} (tier {tierText tier}) cannot depend on {dependency} (tier {tierText dependencyTier})"
  | .text message => message

end CheckFault

inductive FileFault where
  | notFound
  | isDirectory
  | notDirectory
  /-- the content is not text in UTF-8 -/
  | notText
deriving DecidableEq, Repr

namespace FileFault

def message : FileFault → String
  | .notFound => "NotFound"
  | .isDirectory => "IsADirectory"
  | .notDirectory => "NotADirectory"
  | .notText => "InvalidData"

end FileFault

inductive Error where
  | schema (context : String) (violations : List Violation)
  | graph (fault : GraphFault) (chain : List String)
  /-- several alternatives of a keyed-by value apply -/
  | ambiguousKey (field context : String) (alternatives : List String)
  | unresolvedKey (field value context : String)
  | strategy (label strategy : String) (fault : StrategyFault)
  | unknownDependency (label dependency : String)
  | timestamp (label input : String)
  | stage (stage label : String) (fault : StageFault)
  | check (name : String) (fault : CheckFault)
  | payload (label : String) (fault : PayloadFault)
  | config (fault : ConfigFault)
  | file (fault : FileFault)
  | json
  | yaml
  | other (message : String)
deriving DecidableEq, Repr

namespace Error

def message : Error → String
  | .schema context violations =>
    context ++ " " ++ String.intercalate "; " (violations.map Violation.text)
  | .graph fault chain =>
    let links := String.intercalate " -> " chain
    s!"Graph consistency error: {fault.message} (chain: {links})"
  | .ambiguousKey field context alternatives =>
    let names := String.intercalate ", " alternatives
    s!"Multiple matching values for {field} ({context}): {names}"
  | .unresolvedKey field value context =>
    s!"No value for {field} matching {Text.quoted value} ({context})"
  | .strategy label name fault =>
    s!"Optimization strategy {name} failed for task {label}: {fault.message}"
  | .unknownDependency label dependency => s!"Task '{label}' has no dependency named '{dependency}'"
  | .timestamp label input => s!"Invalid relative timestamp {Text.quoted input} in task '{label}'"
  | .stage name label fault => s!"Transform {name} failed for {label}: {fault.message}"
  | .check name fault => s!"Verification {name} failed: {fault.message}"
  | .payload label fault => s!"Payload builder error for task '{label}': {fault.message}"
  | .config fault => "Configuration error: " ++ fault.message
  | .file fault => fault.message
  | .json => "malformed JSON"
  | .yaml => "malformed YAML"
  | .other message => message

/-- A stable name for the kind of failure. -/
def code : Error → String
  | .schema .. => "SCHEMA_ERROR"
  | .graph .. => "GRAPH_CONSISTENCY_ERROR"
  | .ambiguousKey .. => "AMBIGUOUS_KEY_ERROR"
  | .unresolvedKey .. => "UNRESOLVED_KEY_ERROR"
  | .strategy .. => "STRATEGY_ERROR"
  | .unknownDependency .. => "UNKNOWN_DEPENDENCY_ERROR"
  | .timestamp .. => "TIME_PARSE_ERROR"
  | .stage .. => "PIPELINE_ERROR"
  | .check .. => "VERIFICATION_ERROR"
  | .payload .. => "PAYLOAD_ERROR"
  | .config _ => "CONFIG_ERROR"
  | .file _ => "IO_ERROR"
  | .json => "JSON_ERROR"
  | .yaml => "YAML_ERROR"
  | .other _ => "INTERNAL_ERROR"

/-- The violations of a value that does not fit a shape; other failures have none. -/
def violations : Error → List Violation
  | .schema _ violations => violations
  | _ => []

end Error

abbrev Result := Except Error

end TaskPlan
