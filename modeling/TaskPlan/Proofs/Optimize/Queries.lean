import TaskPlan.Proofs.Optimize.Rejection
import TaskPlan.Proofs.Optimize.Run

/-!
# What a run asks the index

With strategies for whatever tags a run asks for no path twice (`optimize_tidy`). With
all of them every path that a search may come to has been asked for with the others of
its layer, so that a search asks for nothing itself and what a layer asks for are the
paths of its candidates (`replaceLayer_asks`). Over the whole run these are the paths of
the tasks that the index is searched for (`optimize_asks`).
-/

namespace TaskPlan

namespace Directive

variable {index : Index} {context : StrategyContext} {registered : SortedSet String}
  {p : Cache → Prop}

theorem searchIndex_keeps {paths : List String}
    (each : ∀ path ∈ paths.filterMap context.renderPath,
      Lookup.Keeps index p (Lookup.ask path : Lookup StrategyFault Answer)) :
    Lookup.Keeps index p (searchIndex context paths) := by
  induction paths with
  | nil => exact Lookup.Keeps.pure none
  | cons path rest ih =>
    rw [searchIndex]
    cases under : context.renderPath path with
    | none =>
      rw [List.filterMap_cons, under] at each
      exact ih each
    | some rendered =>
      rw [List.filterMap_cons, under, List.forall_mem_cons] at each
      obtain ⟨here, later⟩ := each
      refine here.bind fun answer => ?_
      split
      · exact Lookup.Keeps.throw _
      · exact ih later
      · split
        · exact Lookup.Keeps.pure _
        · exact ih later

mutual

/-- A directive asks for no other paths than those that it announces. -/
theorem replacement_keeps : ∀ directive : Directive,
    (∀ path ∈ directive.rendered registered context,
      Lookup.Keeps index p (Lookup.ask path : Lookup StrategyFault Answer)) →
    Lookup.Keeps index p (directive.replacement registered context)
  | .indexSearch paths, each => by
    rw [rendered] at each
    rw [replacement]
    exact searchIndex_keeps each
  | .skipUnlessChanged _, _ => by
    rw [replacement]
    exact Lookup.Keeps.pure none
  | .anyOf members, each => by
    rw [rendered] at each
    rw [replacement]
    exact firstReplacement_keeps members each

theorem firstReplacement_keeps : ∀ members : List Directive,
    (∀ path ∈ renderedOfAll registered context members,
      Lookup.Keeps index p (Lookup.ask path : Lookup StrategyFault Answer)) →
    Lookup.Keeps index p (firstReplacement registered context members)
  | [], _ => by
    rw [firstReplacement]
    exact Lookup.Keeps.pure none
  | first :: rest, each => by
    rw [renderedOfAll, List.forall_mem_append] at each
    obtain ⟨here, later⟩ := each
    rw [firstReplacement]
    split
    · rename_i known
      rw [if_pos known] at here
      refine (replacement_keeps first here).bind fun found => ?_
      split
      · exact Lookup.Keeps.pure _
      · exact firstReplacement_keeps rest later
    · exact Lookup.Keeps.throw _

end

end Directive

theorem Registry.find_ofTags [Glob.Matcher] {tags : SortedSet String} {tag : String} {strategy : Strategy}
    (found : (ofTags tags).find tag = .ok strategy) : Strategy.standard? tags tag = some strategy := by
  rw [find, get?_ofTags] at found
  split at found
  · rename_i present
    cases found
    split at present
    · exact present
    · cases present
  · cases found

namespace Optimize

variable [Glob.Matcher]

variable {registry : Registry} {params : OptimizeParams} {input : TaskGraph} {index : Index}
  {removed : SortedSet String} {replaced : KeyMap String} {ids : TaskIds} {label path : String}
  {p : Cache → Prop} {tags : SortedSet String}

theorem replaceCandidate_keeps {candidate : Candidate}
    (each : ∀ path ∈ candidate.directive.rendered tags candidate.context,
      Lookup.Keeps index p (Lookup.ask path : Lookup StrategyFault Answer)) :
    Lookup.Keeps index p (replaceCandidate (.ofTags tags) replaced candidate) := by
  rw [replaceCandidate]
  cases found : (Registry.ofTags tags).find candidate.directive.tag with
  | error fault => exact fun _ kept => kept
  | ok strategy =>
    have known := Registry.find_ofTags found
    change Lookup.Keeps index p (Lookup.mapError _ (strategy.shouldReplace _ _ _) >>= _)
    rw [Strategy.shouldReplace_standard known]
    refine (Lookup.Keeps.mapError _ (Directive.replacement_keeps _ each)).bind fun id => ?_
    cases id <;> exact Lookup.Keeps.pure _

/-! ### No path twice -/

theorem replacements_tidy :
    Lookup.Keeps index Cache.Tidy (replacements (.ofTags tags) params input removed) := by
  refine Lookup.Keeps.foldlM (fun replaced layer _ => ?_) _
  refine (Lookup.Keeps.ofResult _).bind fun paths => (Lookup.Keeps.prefetch_tidy _).bind fun _ => ?_
  refine Lookup.Keeps.foldlM (fun replaced candidate _ => ?_) _
  exact replaceCandidate_keeps fun path _ => Lookup.Keeps.ask_tidy path

/-- What is remembered of a run was asked for once, also if the run failed. -/
theorem optimize_tidy :
    Lookup.Keeps index Cache.Tidy (optimize (.ofTags tags) ids params input) := by
  refine (Lookup.Keeps.ofResult _).bind fun _ => (Lookup.Keeps.ofResult _).bind fun removed => ?_
  exact replacements_tidy.bind fun replaced => Lookup.Keeps.ofResult _

/-! ### The paths of the candidates -/

/-- A layer asks for the paths of its candidates, as far as they are not remembered. -/
theorem replaceLayer_asks (layer : List String) (cache : Cache) :
    ((replaceLayer .standard params input removed replaced layer).run index cache).2 =
      cache.prefetch index (.ofList ((layer.filterMap (candidate? params input removed
        (replaceExisting params removed layer replaced))).map Candidate.paths).flatten) := by
  rw [replaceLayer, candidatePaths_standard]
  set candidates := layer.filterMap _
  set asked : SortedSet String := .ofList (candidates.map Candidate.paths).flatten
  have settles : Lookup.Keeps index (· = cache.prefetch index asked) (candidates.foldlM
      (replaceCandidate .standard) (replaceExisting params removed layer replaced)) := by
    refine Lookup.Keeps.foldlM (fun replaced candidate member => ?_) _
    refine replaceCandidate_keeps fun path inside => Lookup.Keeps.ask_remembered ?_
    rw [Directive.rendered_standard] at inside
    rw [Cache.remembers_prefetch, SortedSet.mem_ofList]
    exact .inl (List.mem_flatten_of_mem (List.mem_map_of_mem member) inside)
  exact settles _ rfl

/-- The index is searched for the task under this path. -/
def Sought (params : OptimizeParams) (input : TaskGraph) (index : Index) (label path : String) : Prop :=
  ∃ directive ids template, Searched params input index label directive ids ∧
    template ∈ directive.indexPaths ∧ Template.render ids.get? template = .ok path

theorem Sought.known (sound : input.Sound) (sought : Sought params input index label path) :
    label ∈ input.graph.nodes := by
  obtain ⟨_, _, _, searched, -⟩ := sought
  exact searched.toSearchable.known sound

omit [Glob.Matcher] in
theorem Candidate.mem_paths {candidate : Candidate} :
    path ∈ candidate.paths ↔ ∃ template ∈ candidate.directive.indexPaths,
      Template.render candidate.context.dependencyIds.get? template = .ok path := by
  rw [Candidate.paths, List.mem_filterMap]
  refine exists_congr fun template => and_congr_right fun _ => ?_
  rw [StrategyContext.renderPath]
  cases Template.render candidate.context.dependencyIds.get? template <;> simp [Except.toOption]

theorem candidate_sought (sound : input.Sound)
    (removed_iff : ∀ x, x ∈ removed ↔ Skipped params input x)
    (known : Known params input index label replaced) :
    (∃ candidate, candidate? params input removed replaced label = some candidate ∧
      path ∈ candidate.paths) ↔ Sought params input index label path := by
  constructor
  · rintro ⟨candidate, found, inside⟩
    obtain ⟨searched, -⟩ := candidate?_searched sound removed_iff known found
    obtain ⟨template, declared, under⟩ := Candidate.mem_paths.mp inside
    exact ⟨candidate.directive, candidate.context.dependencyIds, template, searched, declared, under⟩
  · rintro ⟨directive, ids, template, searched, declared, under⟩
    obtain ⟨candidate, found, rfl, rfl⟩ := candidate?_of_searched sound removed_iff known searched
    exact ⟨candidate, found, Candidate.mem_paths.mpr ⟨template, declared, under⟩⟩

/-- The paths of the candidates of a layer are those that its labels are searched for under. -/
theorem mem_paths_layer (sound : input.Sound)
    (removed_iff : ∀ x, x ∈ removed ↔ Skipped params input x) {layer : List String}
    (known : ∀ label ∈ layer, Known params input index label replaced) :
    path ∈ ((layer.filterMap (candidate? params input removed replaced)).map Candidate.paths).flatten ↔
      ∃ label ∈ layer, Sought params input index label path := by
  rw [← List.flatMap_def, List.mem_flatMap]
  simp only [List.mem_filterMap]
  constructor
  · rintro ⟨candidate, ⟨label, member, found⟩, inside⟩
    have sought := (candidate_sought sound removed_iff (known label member)).mp ⟨_, found, inside⟩
    exact ⟨label, member, sought⟩
  · rintro ⟨label, member, sought⟩
    obtain ⟨candidate, found, inside⟩ :=
      (candidate_sought sound removed_iff (known label member)).mpr sought
    exact ⟨candidate, ⟨label, member, found⟩, inside⟩

/-- Ids and cache of a pass after the labels that are done: what is remembered are the
paths that these were searched for under. -/
structure Passed (params : OptimizeParams) (input : TaskGraph) (index : Index) (done : List String)
    (replaced : KeyMap String) (cache : Cache) : Prop where
  filled : Filled params input index done [] replaced
  faithful : cache.Faithful index
  remembers : ∀ path, cache.Remembers path ↔ ∃ label ∈ done, Sought params input index label path

theorem passed_empty : Passed params input index [] .empty .empty where
  filled := ⟨by simp, by simp⟩
  faithful := Cache.empty_faithful index
  remembers path := by simpa using Cache.not_remembers_empty path

theorem Passed.through (sound : input.Sound)
    (removed_iff : ∀ x, x ∈ removed ↔ Skipped params input x) {before after : List (List String)}
    {layer : List String} (split : input.graph.layers = before ++ layer :: after) {cache later : Cache}
    {next : KeyMap String} (passed : Passed params input index before.flatten replaced cache)
    (stepped : (replaceLayer .standard params input removed replaced layer).run index cache =
      (.ok next, later)) : Passed params input index (before ++ [layer]).flatten next later := by
  have yields : Lookup.Yields index (replaceLayer .standard params input removed replaced layer)
      (fillLayer index params input removed replaced layer) := replaceLayer_yields layer
  have asks : ((replaceLayer .standard params input removed replaced layer).run index cache).2 = _ :=
    replaceLayer_asks layer cache
  obtain ⟨same, faithful⟩ := yields cache passed.faithful
  simp only [stepped] at same faithful asks
  have known (label : String) (member : label ∈ layer) :=
    passed.filled.known sound removed_iff split member
  refine ⟨(passed.filled.through sound removed_iff split).1 next same.symm, faithful, fun path => ?_⟩
  rw [asks, Cache.remembers_prefetch, SortedSet.mem_ofList, mem_paths_layer sound removed_iff known,
    passed.remembers, List.flatten_append, List.flatten_singleton]
  simp only [List.mem_append, or_and_right, exists_or]
  exact or_comm

/-- What a successful pass remembers are the paths of all searches. -/
theorem replacements_remembers (sound : input.Sound)
    (removed_iff : ∀ x, x ∈ removed ↔ Skipped params input x) {after : Cache}
    (ran : (replacements .standard params input removed).run index .empty = (.ok replaced, after)) :
    after.Remembers path ↔ ∃ label, Sought params input index label path := by
  have passed : Passed params input index input.graph.layers.flatten replaced after := by
    refine Lookup.foldlM_run_keeps (fun done replaced cache =>
      Passed params input index done.flatten replaced cache) ?_ passed_empty ran
    intro done layer rest replaced next cache after split passed stepped
    exact passed.through sound removed_iff split stepped
  rw [passed.remembers]
  refine exists_congr fun label => and_iff_right_of_imp fun sought => ?_
  exact sound.mem_postorder.mpr (sought.known sound)

/-! ### The paths of a run -/

omit [Glob.Matcher] in
theorem optimize_pass {out : OptimizedGraph} {after : Cache}
    (ran : (optimize registry ids params input).run index .empty = (.ok out, after)) :
    ∃ removed replaced, removals registry params input = .ok removed ∧
      (replacements registry params input removed).run index .empty = (.ok replaced, after) := by
  obtain ⟨_, checked, check, ran⟩ := Lookup.run_bind_ok ran
  obtain ⟨-, rfl⟩ := Lookup.run_ofResult_ok check
  obtain ⟨removed, between, removal, ran⟩ := Lookup.run_bind_ok ran
  obtain ⟨removals, rfl⟩ := Lookup.run_ofResult_ok removal
  obtain ⟨replaced, passed, pass, ran⟩ := Lookup.run_bind_ok ran
  obtain ⟨-, rfl⟩ := Lookup.run_ofResult_ok ran
  exact ⟨removed, replaced, removals, pass⟩

end Optimize

namespace OptimizedGraph

/-- The task is a candidate for replacement: the run leaves it free, it has a directive and
is not removed, and all its dependencies are replaced or removed. -/
structure Considers (out : OptimizedGraph) (params : OptimizeParams) (input : TaskGraph)
    (label : String) (directive : Directive) : Prop where
  stays : out.decisions.get? label ≠ some .removed
  allowed : label ∉ params.doNotOptimize
  unlisted : params.existingTasks.get? label = none
  given : ∃ task, input.get? label = some task ∧ task.optimization = some directive
  decided : ∀ dependency, input.graph.DependsOn label dependency →
    out.decisions.get? dependency = some .removed ∨
      ∃ id, out.decisions.get? dependency = some (.replaced id)

/-- The id of the task that replaces the dependency of this name. -/
def replacedUnder (out : OptimizedGraph) (input : TaskGraph) (label name : String) : Option String :=
  ((input.dependencies label).get? name).bind fun dependency =>
    (out.decisions.get? dependency).bind Decision.taskId?

end OptimizedGraph

namespace Optimize

section Matcher

variable [Glob.Matcher]

variable {registry : Registry} {params : OptimizeParams} {input : TaskGraph} {index : Index}
  {removed : SortedSet String} {replaced : KeyMap String} {ids : TaskIds} {label path : String}

theorem sought_iff (sound : input.Sound) {out : OptimizedGraph}
    (ran : ((optimize .standard ids params input).run index .empty).1 = .ok out) :
    Sought params input index label path ↔ ∃ directive template,
      out.Considers params input label directive ∧ template ∈ directive.indexPaths ∧
        Template.render (out.replacedUnder input label) template = .ok path := by
  obtain ⟨removed_iff, replaced_iff, -⟩ := optimize_decided sound ran
  obtain ⟨removed, replaced, decides, -⟩ := optimize_decides sound ran
  have known : Known params input index label replaced := fun dependency id _ =>
    decides.replaced_iff dependency id
  have same : out.replacedUnder input label = (knownIds input replaced label).get? := by
    funext name
    rw [OptimizedGraph.replacedUnder, get?_knownIds]
    refine congrArg _ (funext fun dependency => Option.ext fun id => ?_)
    rw [decides.replaced_iff, ← replaced_iff, Option.bind_eq_some_iff]
    simp only [Decision.taskId?_eq_some, exists_eq_right]
  rw [same]
  constructor
  · rintro ⟨directive, ids, template, searched, declared, under⟩
    rw [searched.eq_knownIds sound known] at under
    refine ⟨directive, template, ?_, declared, under⟩
    refine ⟨fun gone => searched.stays ((removed_iff label).mp gone), searched.allowed,
      searched.unlisted, searched.given, fun dependency depends => ?_⟩
    obtain ⟨name, member⟩ := depends
    have edge := sound.get?_dependencies.mpr member
    obtain ⟨id, named⟩ := searched.toSearchable.named edge
    exact .inr ⟨id, (replaced_iff dependency id).mpr (searched.replaced name dependency id edge named)⟩
  · rintro ⟨directive, template, considers, declared, under⟩
    have stays : ¬ Skipped params input label := fun skipped =>
      considers.stays ((removed_iff label).mpr skipped)
    refine ⟨directive, knownIds input replaced label, template, ?_, declared, under⟩
    refine decides.searched_of_replaced sound stays considers.allowed considers.unlisted
      considers.given fun dependency depends => ?_
    rcases considers.decided dependency depends with gone | ⟨id, taken⟩
    · exact absurd (((removed_iff dependency).mp gone).dependent depends) stays
    · exact ⟨id, (decides.replaced_iff dependency id).mpr ((replaced_iff dependency id).mp taken)⟩

/-- A successful run with the standard strategies asks once for each path inside the
directive of a candidate that can be rendered with the ids of its replaced dependencies, and
for no other path. A run that fails asks for no path twice, and one that is rejected for a
directive asks for none. -/
theorem optimize_asks (reachable : input.Reachable) (ids : TaskIds) (params : OptimizeParams)
    (index : Index) :
    (∀ out after, (optimize .standard ids params input).run index .empty = (.ok out, after) →
      after.asked.Nodup ∧ ∀ path, path ∈ after.asked ↔ ∃ label directive template,
        out.Considers params input label directive ∧ template ∈ directive.indexPaths ∧
          Template.render (out.replacedUnder input label) template = .ok path) ∧
    (∀ tags fault after,
      (optimize (.ofTags tags) ids params input).run index .empty = (.error fault, after) →
      after.asked.Nodup) ∧
    ∀ registry label tag after, (optimize registry ids params input).run index .empty =
      (.error (.config (.unregisteredDirective label tag)), after) → after.asked = [] := by
  have sound := reachable.sound
  have tidy {tags : SortedSet String} {outcome : Result OptimizedGraph} {after : Cache}
      (ran : (optimize (.ofTags tags) ids params input).run index .empty = (outcome, after)) :
      after.Tidy := by
    have kept : ((optimize (.ofTags tags) ids params input).run index .empty).2.Tidy :=
      optimize_tidy .empty Cache.empty_tidy
    rwa [ran] at kept
  refine ⟨fun out after ran => ?_, fun tags fault after ran => (tidy ran).once,
    fun registry label tag after ran => ?_⟩
  · have once : after.Tidy := tidy ran
    refine ⟨once.once, fun path => ?_⟩
    obtain ⟨removed, replaced, removals, pass⟩ := optimize_pass ran
    rw [once.asked_iff, replacements_remembers sound (mem_removals_standard sound removals) pass]
    exact exists_congr fun label => sought_iff sound (by rw [ran])
  · rw [optimize_rejected sound ran ⟨label, tag, rfl⟩]
    rfl

end Matcher

/-- Two tasks that may be found under one path, the second also under one with the id of
the first. -/
def sharedPath : List Task :=
  [⟨"image", "docker", .empty, .empty, some (.indexSearch ["images.latest"]), .alwaysOptimized, .null⟩,
    ⟨"use", "run", .empty, .ofList [("base", "image")],
      some (.anyOf [.indexSearch ["images.latest"], .anyOf [.indexSearch ["uses.<base>", "uses.<tools>"]]]),
      .alwaysOptimized, .null⟩]

/-- The shared path is asked for once, the path of the second task although the first one
was enough, and nothing without a strategy for composite directives. -/
theorem optimize_asks_shared :
    ∃ (input : TaskGraph) (out : OptimizedGraph) (after rejected : Cache) (fault : Error),
      input.Reachable ∧ after.asked = ["images.latest", "uses.T"] ∧
      (∃ label directive template, out.Considers .empty input label directive ∧
        template ∈ directive.indexPaths ∧
        Template.render (out.replacedUnder input label) template = .ok "uses.T") ∧
      (optimize (.ofTags (.ofList ["index-search"])) (.sequential "t") .empty input).run
        TaskGraph.imageIndex .empty = (.error fault, rejected) ∧ rejected.asked = [] := by
  obtain ⟨input, built, h⟩ := exists_ok (x := TaskGraph.ofTasks sharedPath)
    (p := fun input =>
      (((optimize .standard (.sequential "t") .empty input).run TaskGraph.imageIndex .empty).1.toOption.any
        fun _ => ((optimize .standard (.sequential "t") .empty input).run
          TaskGraph.imageIndex .empty).2.asked = ["images.latest", "uses.T"]) &&
      match ((optimize (.ofTags (.ofList ["index-search"])) (.sequential "t") .empty input).run
          TaskGraph.imageIndex .empty).1 with
      | .ok _ => false
      | .error fault => fault = .config (.unregisteredDirective "use" "any-of"))
    (by decide +kernel)
  obtain ⟨searched, stopped⟩ := Bool.and_eq_true_iff.mp h
  have reachable := TaskGraph.Reachable.built built
  obtain ⟨succeeds, -, rejects⟩ :=
    optimize_asks reachable (.sequential "t") .empty TaskGraph.imageIndex
  obtain ⟨out, ran, asked⟩ := exists_ok searched
  have asked := of_decide_eq_true asked
  obtain ⟨-, asked_iff⟩ := succeeds out _ (Prod.ext ran rfl)
  have sought := (asked_iff "uses.T").mp (by simp [asked])
  split at stopped
  · cases stopped
  · rename_i fault failed
    rw [of_decide_eq_true stopped] at failed
    have rejected : (optimize (.ofTags (.ofList ["index-search"])) (.sequential "t") .empty input).run
        TaskGraph.imageIndex .empty = (.error (.config (.unregisteredDirective "use" "any-of")), _) :=
      Prod.ext failed rfl
    exact ⟨input, out, _, _, _, reachable, asked, sought, rejected, rejects _ _ _ _ rejected⟩

end Optimize

end TaskPlan
