import TaskPlan.Json.Decode
import TaskPlan.Reference.Placeholder

/-!
# Graph configuration

What holds for all tasks of a repository, whatever a run is made for.
-/

namespace TaskPlan

structure GraphConfig where
  version : UInt32
  /-- stands in index routes and scopes -/
  trustDomain : String
  /-- the root of the deployment, from which locators of artifacts are made -/
  rootUrl : String
  taskPriority : String
  /-- how long a task is kept, in so far as it does not say so; may be keyed by parameters -/
  expiresAfter : Json
  deadlineAfter : String
  indexPrefix : String
deriving DecidableEq, Inhabited

namespace GraphConfig

def defaultExpiresAfter : Json :=
  .obj [("by-project", .obj [("try", .str "28 days"), ("default", .str "1 year")])]

def ofDomain (trustDomain rootUrl : String) : GraphConfig where
  version := 1
  trustDomain := trustDomain
  rootUrl := rootUrl
  taskPriority := "low"
  expiresAfter := defaultExpiresAfter
  deadlineAfter := "1 day"
  indexPrefix := "index"

def isLegacy (config : GraphConfig) : Bool := isLegacyRoot config.rootUrl

def fieldNames : List String :=
  ["version", "trust-domain", "root-url", "task-priority", "expires-after", "deadline-after",
    "index-prefix"]

def encode (config : GraphConfig) : Json :=
  .obj [("version", .ofWord config.version.toUInt64), ("trust-domain", .str config.trustDomain),
    ("root-url", .str config.rootUrl), ("task-priority", .str config.taskPriority),
    ("expires-after", config.expiresAfter), ("deadline-after", .str config.deadlineAfter),
    ("index-prefix", .str config.indexPrefix)]

def versionOf? (value : Json) : Option UInt32 :=
  value.word?.bind fun version =>
    if version.toNat < UInt32.size then some version.toUInt32 else none

def decode? (value : Json) : Option GraphConfig := do
  match ← value.members? fieldNames true with
  | [version, trustDomain, rootUrl, taskPriority, expiresAfter, deadlineAfter, indexPrefix] =>
    let version ← Json.needed versionOf? version
    let trustDomain ← Json.needed Json.asStr trustDomain
    let rootUrl ← Json.needed Json.asStr rootUrl
    let taskPriority ← Json.defaulted Json.asStr "low" taskPriority
    let expiresAfter ← Json.defaulted Json.asAny defaultExpiresAfter expiresAfter
    let deadlineAfter ← Json.defaulted Json.asStr "1 day" deadlineAfter
    let indexPrefix ← Json.defaulted Json.asStr "index" indexPrefix
    return ⟨version, trustDomain, rootUrl, taskPriority, expiresAfter, deadlineAfter, indexPrefix⟩
  | _ => none

/-- A configuration in use has a supported version and a trust domain. -/
def check (config : GraphConfig) : Result GraphConfig :=
  if config.version ≠ 1 then .error (.config (.unsupportedVersion config.version.toNat))
  else if config.trustDomain.isEmpty then .error (.config .emptyTrustDomain)
  else .ok config

end GraphConfig

end TaskPlan
