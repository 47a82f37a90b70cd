import TaskPlan.Text.Split
import TaskPlan.Verify.Basic

/-!
# The standard checks

No two tasks may be found under one route of the index or shown under one symbol,
and no task may depend on one of a higher tier.
-/

namespace TaskPlan

namespace Check

/-- Notes a label under a text, unless something is noted there already. -/
def note (name : String) (fault : (label : String) → (other : Json) → (text : String) → CheckFault)
    (label : String) (notes : Notes) (text : String) : Result Notes :=
  match notes.get? text with
  | some other => .error (.check name (fault label other text))
  | none => .ok (notes.insert text (.str label))

/-- Refuses a text that comes a second time, be it with another task or with the same. -/
def unique (name : String) (texts : GraphConfig → Task → List String)
    (fault : (label : String) → (other : Json) → (text : String) → CheckFault) : Check where
  name := name
  onTask config _ notes task := (texts config task).foldlM (note name fault task.label) notes

/-! ### Routes -/

def routeStart (config : GraphConfig) : String := s!"{config.indexPrefix}.{config.trustDomain}.v2"

def routesOf (task : Task) : List String :=
  (((task.definition.get? "routes").bind Json.arr?).getD []).filterMap Json.str?

def indexRoutes (config : GraphConfig) (task : Task) : List String :=
  (routesOf task).filter fun route => Text.startsWith route (routeStart config)

def uniqueIndexRoutes : Check := unique "unique-index-routes" indexRoutes .sharedRoute

/-! ### Symbols -/

def treeherder? (task : Task) : Option Json :=
  (task.definition.get? "extra").bind (·.get? "treeherder")

/-- The text at the end of a path of keys; empty if there is none. -/
def textAt (value : Json) (path : List String) : String :=
  ((path.foldl (fun value key => value.bind (·.get? key)) (some value)).bind Json.str?).getD ""

def collectionNames (treeherder : Json) : SortedSet String :=
  .ofList (((treeherder.get? "collection").bind Json.obj?).getD []).keys

/-- What a task is shown under. -/
structure Symbol where
  collection : SortedSet String
  platform : String
  group : String
  symbol : String
deriving DecidableEq

namespace Symbol

def names (s : Symbol) : String := String.intercalate "," s.collection.toList

def text (s : Symbol) : String := s!"{s.names}/{s.platform}/{s.group}/{s.symbol}"

end Symbol

/-- The symbol of a task, unless it is not to be shown. -/
def symbolOf? (task : Task) : Option Symbol :=
  (treeherder? task).map fun treeherder =>
    ⟨collectionNames treeherder, textAt treeherder ["machine", "platform"],
      textAt treeherder ["groupSymbol"], textAt treeherder ["symbol"]⟩

def symbols (_ : GraphConfig) (task : Task) : List String :=
  ((symbolOf? task).map Symbol.text).toList

def uniqueTreeherderSymbols : Check := unique "unique-treeherder-symbols" symbols .sharedSymbol

/-! ### Tiers -/

/-- The tier of a task, unless it has none that is known. The largest word counts as
unknown too. -/
def tier? (task : Task) : Option Nat :=
  ((((treeherder? task).bind (·.get? "tier")).bind Json.word?).map UInt64.toNat).filter
    fun tier => tier < UInt64.size - 1

def tierBelow : Option Nat → Option Nat → Bool
  | some a, some b => a < b
  | some _, none => true
  | none, _ => false

def tierOf (graph : TaskGraph) (label : String) : Option Nat := (graph.get? label).bind tier?

/-- Dependencies on dummies are not looked at. -/
def isDummy (graph : TaskGraph) (label : String) : Bool :=
  match graph.get? label with
  | some task => Text.contains task.kind "dummy"
  | none => false

def tierFault? (graph : TaskGraph) (label : String) : Option CheckFault :=
  (graph.dependencies label).values.findSome? fun dependency =>
    let tier := tierOf graph label
    let dependencyTier := tierOf graph dependency
    if !isDummy graph dependency && tierBelow tier dependencyTier then
      some (.higherTier label tier dependency dependencyTier)
    else none

def dependencyTiers : Check where
  name := "dependency-tiers"
  onGraph _ graph _ :=
    match graph.labels.findSome? (tierFault? graph) with
    | some fault => .error (.check "dependency-tiers" fault)
    | none => .ok ()

/-- Finds nothing wrong with tasks that exist only to be optimized away and are left. -/
def alwaysOptimizedSurvivors : Check where
  name := "always-optimized-survivors"

def standard : List Check :=
  [uniqueTreeherderSymbols, uniqueIndexRoutes, dependencyTiers, alwaysOptimizedSurvivors]

def find? (name : String) : Option Check := standard.find? fun check => check.name == name

end Check

namespace Checks

def standard : Checks :=
  [(.full, Check.uniqueTreeherderSymbols), (.full, Check.uniqueIndexRoutes),
    (.full, Check.dependencyTiers), (.optimized, Check.alwaysOptimizedSurvivors)]

end Checks

end TaskPlan
