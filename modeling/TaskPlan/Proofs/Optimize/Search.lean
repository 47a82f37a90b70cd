import TaskPlan.Proofs.Optimize.Standard

/-!
# Searching the index

A directive searches as one search of all paths inside it does (`replacement_standard`).
What is found does not depend on what is remembered: it is the first fit result under these
paths, asked of the index itself (`firstFit`, `replacement_yields`). So one layer of the
replacement, and the whole pass, is a plain loop over candidates (`replacements_yields`).
-/

namespace TaskPlan

/-- The id of the first fit result under those paths that can be rendered with the ids
of dependencies. A failing look-up ends the search. -/
def firstFit (index : Index) (deadline : Option Instant) (ids : KeyMap String) :
    (paths : List String) → Except String (Option String)
  | [] => .ok none
  | path :: rest =>
    match (Template.render ids.get? path).toOption with
    | none => firstFit index deadline ids rest
    | some rendered =>
      match index rendered with
      | .error message => .error message
      | .ok none => firstFit index deadline ids rest
      | .ok (some result) =>
        if result.isFit deadline then .ok (some result.taskId)
        else firstFit index deadline ids rest

theorem firstFit_append (index : Index) (deadline : Option Instant) (ids : KeyMap String)
    (first rest : List String) :
    firstFit index deadline ids (first ++ rest) =
      match firstFit index deadline ids first with
      | .ok none => firstFit index deadline ids rest
      | found => found := by
  induction first with
  | nil => rfl
  | cons path more ih =>
    rw [List.cons_append, firstFit, firstFit]
    cases (Template.render ids.get? path).toOption with
    | none => exact ih
    | some rendered =>
      simp only
      cases index rendered with
      | error message => rfl
      | ok answer =>
        cases answer with
        | none => exact ih
        | some result =>
          simp only
          split
          · rfl
          · exact ih

/-- Nothing is found if no path that can be rendered leads to a fit result, or to a failure. -/
theorem firstFit_eq_none_iff {index : Index} {deadline : Option Instant} {ids : KeyMap String}
    {paths : List String} :
    firstFit index deadline ids paths = .ok none ↔
      ∀ path ∈ paths, ∀ rendered, Template.render ids.get? path = .ok rendered →
        ∃ answer, index rendered = .ok answer ∧ ∀ result ∈ answer, result.isFit deadline = false := by
  induction paths with
  | nil => simp [firstFit]
  | cons path rest ih =>
    rw [firstFit, List.forall_mem_cons, ← ih]
    cases outcome : Template.render ids.get? path with
    | error name => simp [Except.toOption]
    | ok rendered =>
      simp only [Except.toOption, Except.ok.injEq, forall_eq']
      cases index rendered with
      | error message => simp
      | ok answer =>
        cases answer with
        | none => simp
        | some result => cases fit : result.isFit deadline <;> simp [fit]

namespace Directive

def ownPaths : Directive → List String
  | .indexSearch paths => paths
  | _ => []

/-- The index paths inside a directive, in the order of declaration. -/
def indexPaths (directive : Directive) : List String := directive.leaves.flatMap ownPaths

@[simp] theorem indexPaths_indexSearch (paths : List String) :
    (indexSearch paths).indexPaths = paths := by
  simp [indexPaths, leaves, ownPaths]

@[simp] theorem indexPaths_skipUnlessChanged (patterns : List String) :
    (skipUnlessChanged patterns).indexPaths = [] := by
  simp [indexPaths, leaves, ownPaths]

variable {index : Index} {context : StrategyContext}

theorem searchIndex_yields (paths : List String) :
    Lookup.Yields index (searchIndex context paths)
      ((firstFit index context.params.deadline context.dependencyIds paths).mapError .lookup) := by
  induction paths with
  | nil => exact Lookup.Yields.pure none
  | cons path rest ih =>
    rw [searchIndex, firstFit, StrategyContext.renderPath]
    cases (Template.render context.dependencyIds.get? path).toOption with
    | none => exact ih
    | some rendered =>
      simp only
      refine (Lookup.Yields.ask rendered).bind_ok ?_
      cases index rendered with
      | error message => exact Lookup.Yields.throw _
      | ok answer =>
        cases answer with
        | none => exact ih
        | some result =>
          simp only
          split
          · exact Lookup.Yields.pure _
          · exact ih

theorem searchIndex_append (first rest : List String) :
    searchIndex context (first ++ rest) = searchIndex context first >>= fun
      | some taskId => pure (some taskId)
      | none => searchIndex context rest := by
  induction first with
  | nil => rfl
  | cons path more ih =>
    rw [List.cons_append, searchIndex, searchIndex]
    cases context.renderPath path with
    | none => exact ih
    | some rendered =>
      simp only [bind_assoc]
      refine bind_congr fun answer => ?_
      cases answer with
      | error message => rfl
      | ok found =>
        cases found with
        | none => exact ih
        | some result =>
          simp only
          split
          · rfl
          · exact ih

mutual

/-- A directive searches as one search of all paths inside it does. -/
theorem replacement_standard : ∀ directive : Directive,
    directive.replacement Registry.standardTags context = searchIndex context directive.indexPaths
  | .indexSearch paths => by rw [replacement, indexPaths_indexSearch]
  | .skipUnlessChanged patterns => by
    rw [replacement, indexPaths_skipUnlessChanged]
    rfl
  | .anyOf members => by
    rw [replacement, indexPaths, leaves]
    exact firstReplacement_standard members

theorem firstReplacement_standard : ∀ members : List Directive,
    firstReplacement Registry.standardTags context members =
      searchIndex context ((leavesOfAll members).flatMap ownPaths)
  | [] => by
    rw [firstReplacement, leavesOfAll]
    rfl
  | first :: rest => by
    rw [firstReplacement, if_pos (Registry.tag_standard first), leavesOfAll, List.flatMap_append,
      searchIndex_append, replacement_standard first, indexPaths]
    refine bind_congr fun answer => ?_
    cases answer with
    | none => exact firstReplacement_standard rest
    | some taskId => rfl

end

theorem replacement_yields (directive : Directive) :
    Lookup.Yields index (directive.replacement Registry.standardTags context)
      ((firstFit index context.params.deadline context.dependencyIds directive.indexPaths).mapError
        .lookup) := by
  rw [replacement_standard]
  exact searchIndex_yields directive.indexPaths

variable (context) in
mutual

/-- All paths inside a directive that can be rendered are announced. -/
theorem rendered_standard : ∀ directive : Directive,
    directive.rendered Registry.standardTags context = directive.indexPaths.filterMap context.renderPath
  | .indexSearch paths => by rw [rendered, indexPaths_indexSearch]
  | .skipUnlessChanged patterns => by rw [rendered, indexPaths_skipUnlessChanged, List.filterMap_nil]
  | .anyOf members => by
    rw [rendered, indexPaths, leaves]
    exact renderedOfAll_standard members

theorem renderedOfAll_standard : ∀ members : List Directive,
    renderedOfAll Registry.standardTags context members =
      ((leavesOfAll members).flatMap ownPaths).filterMap context.renderPath
  | [] => by rw [renderedOfAll, leavesOfAll, List.flatMap_nil, List.filterMap_nil]
  | first :: rest => by
    rw [renderedOfAll, if_pos (Registry.tag_standard first), leavesOfAll, List.flatMap_append,
      List.filterMap_append, rendered_standard first, renderedOfAll_standard rest, indexPaths]

end

end Directive

theorem Strategy.lookupPaths_standard [Glob.Matcher] {registered : SortedSet String} {directive : Directive}
    {strategy : Strategy} (known : standard? registered directive.tag = some strategy)
    (context : StrategyContext) :
    strategy.lookupPaths directive context = directive.rendered registered context := by
  cases directive <;>
  · cases known
    simp only [indexSearch, skipUnlessChanged, anyOf, Directive.rendered]

theorem Strategy.shouldReplace_standard [Glob.Matcher] {registered : SortedSet String} {directive : Directive}
    {strategy : Strategy} (known : standard? registered directive.tag = some strategy)
    (task : Task) (context : StrategyContext) :
    strategy.shouldReplace task directive context = directive.replacement registered context := by
  cases directive <;>
  · cases known
    simp only [indexSearch, skipUnlessChanged, anyOf, Directive.replacement]

namespace Optimize

variable [Glob.Matcher]

variable {params : OptimizeParams} {input : TaskGraph} {index : Index} {removed : SortedSet String}
  {replaced : KeyMap String}

/-! ### The pass as a plain loop -/

def fill (index : Index) (replaced : KeyMap String) (candidate : Candidate) :
    Result (KeyMap String) :=
  match firstFit index candidate.context.params.deadline candidate.context.dependencyIds
      candidate.directive.indexPaths with
  | .ok (some taskId) => .ok (replaced.insert candidate.task.label taskId)
  | .ok none => .ok replaced
  | .error message => .error (strategyError candidate.task (.lookup message))

theorem replaceCandidate_yields (candidate : Candidate) :
    Lookup.Yields index (replaceCandidate .standard replaced candidate)
      (fill index replaced candidate) := by
  obtain ⟨task, directive, context⟩ := candidate
  obtain ⟨strategy, find, known⟩ := Registry.find_standard directive
  have found := (@Directive.replacement_yields index context directive).mapError (strategyError task)
  rw [replaceCandidate, fill]
  simp only [find]
  refine (Lookup.Yields.ofResult _).bind_ok ?_
  rw [Strategy.shouldReplace_standard known]
  cases outcome : firstFit index context.params.deadline context.dependencyIds
      directive.indexPaths with
  | error message =>
    rw [outcome] at found
    exact Lookup.Yields.bind_error _ found
  | ok answer =>
    rw [outcome] at found
    refine found.bind_ok ?_
    cases answer with
    | none => exact Lookup.Yields.pure _
    | some taskId => exact Lookup.Yields.pure _

def fillLayer (index : Index) (params : OptimizeParams) (input : TaskGraph)
    (removed : SortedSet String) (replaced : KeyMap String) (layer : List String) :
    Result (KeyMap String) :=
  let existing := replaceExisting params removed layer replaced
  (layer.filterMap (candidate? params input removed existing)).foldlM (fill index) existing

def Candidate.paths (candidate : Candidate) : List String :=
  candidate.directive.indexPaths.filterMap candidate.context.renderPath

theorem candidatePaths_standard (candidates : List Candidate) :
    candidates.mapM (candidatePaths .standard) = .ok (candidates.map Candidate.paths) := by
  induction candidates with
  | nil => rfl
  | cons candidate rest ih =>
    obtain ⟨strategy, find, known⟩ := Registry.find_standard candidate.directive
    rw [List.mapM_cons, candidatePaths, find, ih, List.map_cons, Candidate.paths,
      ← Directive.rendered_standard, ← Strategy.lookupPaths_standard known]
    rfl

theorem replaceLayer_yields (layer : List String) :
    Lookup.Yields index (replaceLayer .standard params input removed replaced layer)
      (fillLayer index params input removed replaced layer) := by
  rw [replaceLayer, candidatePaths_standard]
  refine (Lookup.Yields.ofResult _).bind_ok ?_
  refine (Lookup.Yields.prefetch _).bind_ok ?_
  exact Lookup.Yields.foldlM (fun _ candidate => replaceCandidate_yields candidate) _ _

/-- Whatever is remembered and prefetched, the pass fills in one layer after the other. -/
theorem replacements_yields :
    Lookup.Yields index (replacements .standard params input removed)
      (input.graph.layers.foldlM (fillLayer index params input removed) .empty) :=
  Lookup.Yields.foldlM (fun _ layer => replaceLayer_yields layer) _ _

end Optimize

end TaskPlan
