import TaskPlan.Optimize.Strategy
import TaskPlan.Pattern.Glob
import TaskPlan.Text.Split

/-!
# The standard strategies

`index-search` replaces a task by the first usable result under its paths,
`skip-unless-changed` removes a task whose files did not change, and `any-of` asks
the strategies of its members in the order of declaration.

What a directive answers is defined by recursion on the directive, for a set of
registered tags. A member of `any-of` whose tag is not registered is a fault, except
that it has no paths to ask for.
-/

namespace TaskPlan

variable [Glob.Matcher]

namespace ChangedFiles

/-- A pattern matches a path as a glob, or as the directory that the path is in. -/
def matchesPath (pattern path : String) : Bool :=
  Glob.Matcher.isMatch pattern path ||
    (let directory := Text.trimEnd '/' pattern
     !directory.isEmpty && (path == directory || Text.startsWith path (directory ++ "/")))

def touches (changed : ChangedFiles) (patterns : List String) : Bool :=
  patterns.any fun pattern => changed.files.any fun path => matchesPath pattern path

end ChangedFiles

namespace IndexedResult

/-- A result stands in for a task if it did not fail and outlives the deadline. -/
def isFit (deadline : Option Instant) (result : IndexedResult) : Bool :=
  result.state.isUsable &&
    match deadline with
    | some deadline => deadline.before result.expires
    | none => true

end IndexedResult

namespace Directive

/-- The id of the first fit result under the paths. Paths that cannot be rendered
are passed over; a failing look-up ends the search. -/
def searchIndex (context : StrategyContext) : List String → Lookup StrategyFault (Option String)
  | [] => pure none
  | path :: rest =>
    match context.renderPath path with
    | none => searchIndex context rest
    | some rendered => do
      match ← Lookup.ask rendered with
      | .error message => throw (.lookup message)
      | .ok none => searchIndex context rest
      | .ok (some result) =>
        if result.isFit context.params.deadline then pure (some result.taskId)
        else searchIndex context rest

mutual

def removes (registered : SortedSet String) (changed : ChangedFiles) :
    Directive → Except StrategyFault Bool
  | .indexSearch _ => .ok false
  | .skipUnlessChanged patterns => .ok (changed.tracked && !changed.touches patterns)
  | .anyOf members => removesAny registered changed members
termination_by structural directive => directive

def removesAny (registered : SortedSet String) (changed : ChangedFiles) :
    List Directive → Except StrategyFault Bool
  | [] => .ok false
  | member :: rest =>
    if member.tag ∈ registered then
      match removes registered changed member with
      | .error fault => .error fault
      | .ok true => .ok true
      | .ok false => removesAny registered changed rest
    else .error (.unregistered member.tag)
termination_by structural members => members

end

mutual

def rendered (registered : SortedSet String) (context : StrategyContext) : Directive → List String
  | .indexSearch paths => paths.filterMap context.renderPath
  | .skipUnlessChanged _ => []
  | .anyOf members => renderedOfAll registered context members
termination_by structural directive => directive

def renderedOfAll (registered : SortedSet String) (context : StrategyContext) :
    List Directive → List String
  | [] => []
  | member :: rest =>
    (if member.tag ∈ registered then rendered registered context member else []) ++
      renderedOfAll registered context rest
termination_by structural members => members

end

mutual

def replacement (registered : SortedSet String) (context : StrategyContext) :
    Directive → Lookup StrategyFault (Option String)
  | .indexSearch paths => searchIndex context paths
  | .skipUnlessChanged _ => pure none
  | .anyOf members => firstReplacement registered context members
termination_by structural directive => directive

def firstReplacement (registered : SortedSet String) (context : StrategyContext) :
    List Directive → Lookup StrategyFault (Option String)
  | [] => pure none
  | member :: rest =>
    if member.tag ∈ registered then do
      match ← replacement registered context member with
      | some taskId => pure (some taskId)
      | none => firstReplacement registered context rest
    else throw (.unregistered member.tag)
termination_by structural members => members

end

end Directive

namespace Strategy

def indexSearch : Strategy where
  shouldRemove _ _ _ := .ok false
  lookupPaths
    | .indexSearch paths, context => paths.filterMap context.renderPath
    | _, _ => []
  shouldReplace _
    | .indexSearch paths, context => Directive.searchIndex context paths
    | directive, _ => throw (.mismatch "index-search" directive.tag)

def skipUnlessChanged : Strategy where
  shouldRemove _
    | .skipUnlessChanged patterns, context =>
      Directive.removes .empty context.params.changedFiles (.skipUnlessChanged patterns)
    | directive, _ => .error (.mismatch "skip-unless-changed" directive.tag)
  lookupPaths _ _ := []
  shouldReplace _ _ _ := pure none

def anyOf (registered : SortedSet String) : Strategy where
  shouldRemove _
    | .anyOf members, context =>
      Directive.removesAny registered context.params.changedFiles members
    | directive, _ => .error (.mismatch "any-of" directive.tag)
  lookupPaths
    | .anyOf members, context => Directive.renderedOfAll registered context members
    | _, _ => []
  shouldReplace _
    | .anyOf members, context => Directive.firstReplacement registered context members
    | directive, _ => throw (.mismatch "any-of" directive.tag)

/-- The standard strategy for a tag, among others that are registered. -/
def standard? (registered : SortedSet String) : (tag : String) → Option Strategy
  | "index-search" => some indexSearch
  | "skip-unless-changed" => some skipUnlessChanged
  | "any-of" => some (anyOf registered)
  | _ => none

end Strategy

namespace Registry

def standardTags : SortedSet String := .ofList ["index-search", "skip-unless-changed", "any-of"]

def ofTags (tags : SortedSet String) : Registry :=
  .ofList (tags.toList.filterMap fun tag => (Strategy.standard? tags tag).map fun s => (tag, s))

def standard : Registry := ofTags standardTags

end Registry

end TaskPlan
