import TaskPlan.Config.Document
import TaskPlan.Files.Tree
import TaskPlan.Yaml.Print

/-!
# Configuration files
-/

namespace TaskPlan

namespace GraphConfig

def load (tree : FileTree) (path : String) : Result GraphConfig := do
  let text ← tree.readText path
  ofYaml text

def toYaml (config : GraphConfig) : String := Yaml.print config.encode

end GraphConfig

namespace Parameters

/-- Files whose names end in `.json` hold JSON, and all others YAML. -/
def load (tree : FileTree) (path : String) : Result Parameters := do
  let text ← tree.readText path
  if Path.extension? path = some "json" then ofJsonText text else ofYaml text

end Parameters

namespace RunParameters

def load (tree : FileTree) (path : String) : Result RunParameters := do
  let text ← tree.readText path
  ofYaml text

end RunParameters

end TaskPlan
