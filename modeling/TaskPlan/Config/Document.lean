import TaskPlan.Config.Graph
import TaskPlan.Config.Run
import TaskPlan.Json.Parse
import TaskPlan.Yaml.Value

/-!
# Configuration documents

Graph configurations, parameters and run parameters as YAML documents. A text in a
graph configuration may be written as any scalar; in run parameters a scalar counts
as what it stands for.
-/

namespace TaskPlan

namespace GraphConfig

/-- An unsigned integer, written plainly or as a literal block that is tagged so. -/
def natural? : Yaml.Node → Option Json
  | .scalar tag text style =>
    if style == .plain || (style == .literal && tag == some "tag:yaml.org,2002:int") then
      if text.toList.head? == some '-' then none
      else (Yaml.Plain.int? text.toList).bind fun n =>
        if fits : isWordInt n then some (.num (.int n fits)) else none
    else none
  | _ => none

def fieldOfNode? (name : String) (node : Yaml.Node) : Option Json :=
  if name = "version" then natural? node
  else if name = "expires-after" then node.json?
  else node.text?.map .str

def fieldsOfNodes? : List String → List (Option Yaml.Node) → Option Fields
  | name :: names, some node :: nodes => do
    let value ← fieldOfNode? name node
    let fields ← fieldsOfNodes? names nodes
    return (name, value) :: fields
  | _ :: names, none :: nodes => fieldsOfNodes? names nodes
  | _, _ => some []

def ofNode? (node : Yaml.Node) : Option GraphConfig := do
  let nodes ← node.members? fieldNames
  let fields ← fieldsOfNodes? fieldNames nodes
  decode? (.obj fields)

def ofYaml (text : String) : Result GraphConfig :=
  match (Yaml.Node.read text).bind fun node => node.bind ofNode? with
  | some config => config.check
  | none => .error .yaml

end GraphConfig

namespace Parameters

def ofYaml (text : String) : Result Parameters :=
  match Yaml.read? text with
  | some value => ofDocument value
  | none => .error .yaml

def ofJsonText (text : String) : Result Parameters :=
  match Json.parse? text with
  | some value => ofJson value
  | none => .error .json

end Parameters

namespace RunParameters

def distinct (names : List String) (keys : List String) : Bool :=
  names.all fun name => keys.count name ≤ 1

/-- The moment of the generation is a text whatever its scalar stands for; other
fields of a run are data with texts for keys. -/
def entryOfNode? (entry : Yaml.Node × Yaml.Node) : Option (String × Json) := do
  let key ← entry.1.text?
  if key = "generated-at" then
    let text ← entry.2.text?
    return (key, .str text)
  else if OptimizeParams.fieldNames.contains key then
    let value ← entry.2.value? Yaml.Node.textValue?
    return (key, value)
  else
    let value ← entry.2.value? fun _ => some ""
    return (key, value)

def changedFilesKeys : Yaml.Node → List String
  | .mapping _ entries => entries.filterMap fun entry => entry.1.textValue?
  | _ => []

def hasDistinctFields (entries : List (Yaml.Node × Yaml.Node)) : Bool :=
  distinct ("generated-at" :: OptimizeParams.fieldNames) (entries.filterMap fun entry => entry.1.text?) &&
    entries.all fun entry => entry.1.text? != some "changed-files" ||
      distinct ["files", "tracked"] (changedFilesKeys entry.2)

def ofNode? : Yaml.Node → Option RunParameters
  | .mapping _ entries => do
    guard (hasDistinctFields entries)
    let fields ← entries.mapM entryOfNode?
    decode? (.obj fields)
  | _ => none

def ofYaml (text : String) : Result RunParameters :=
  match (Yaml.Node.read text).bind fun node => node.bind ofNode? with
  | some run => .ok run
  | none => .error .yaml

end RunParameters

end TaskPlan
