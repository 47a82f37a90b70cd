import TaskPlan.Proofs.Optimize.Queries

/-!
# Registries with some of the standard strategies

A run is rejected if some directive inside that of a task has no strategy
(`check_input_error`). Past that check the strategies that are missing are not missed: the
run is the one with all of them (`optimize_ofTags`). So it fails for a directive without a
strategy, before it does anything, or for a look-up, and in no other way (`optimize_fails`).
-/

namespace TaskPlan

namespace Directive

/-- A directive is inside itself, and inside a composite one if it is inside a member. -/
inductive Inside (inner : Directive) : Directive → Prop where
  | itself : Inside inner inner
  | deeper {members : List Directive} {member : Directive} (declared : member ∈ members)
      (inside : Inside inner member) : Inside inner (.anyOf members)

mutual

/-- The tags of a directive are those of the directives inside it. -/
theorem mem_tags_iff {tag : String} : ∀ directive : Directive,
    tag ∈ directive.tags ↔ ∃ inner, Inside inner directive ∧ inner.tag = tag
  | .indexSearch paths => by
    rw [tags, List.mem_singleton]
    constructor
    · rintro rfl
      exact ⟨_, .itself, rfl⟩
    · rintro ⟨_, inside, rfl⟩
      cases inside
      rfl
  | .skipUnlessChanged patterns => by
    rw [tags, List.mem_singleton]
    constructor
    · rintro rfl
      exact ⟨_, .itself, rfl⟩
    · rintro ⟨_, inside, rfl⟩
      cases inside
      rfl
  | .anyOf members => by
    rw [tags, List.mem_cons, mem_tagsOfAll_iff members]
    constructor
    · rintro (rfl | ⟨member, declared, inner, inside, same⟩)
      · exact ⟨_, .itself, rfl⟩
      · exact ⟨inner, .deeper declared inside, same⟩
    · rintro ⟨inner, inside, same⟩
      cases inside with
      | itself => exact .inl same.symm
      | deeper declared inside => exact .inr ⟨_, declared, inner, inside, same⟩

theorem mem_tagsOfAll_iff {tag : String} : ∀ members : List Directive,
    tag ∈ tagsOfAll members ↔
      ∃ member ∈ members, ∃ inner, Inside inner member ∧ inner.tag = tag
  | [] => by simp [tagsOfAll]
  | first :: rest => by
    rw [tagsOfAll, List.mem_append, mem_tags_iff first, mem_tagsOfAll_iff rest, List.exists_mem_cons_iff]

end

variable {tags : SortedSet String}

/-- All directives inside have a strategy among those for the tags. -/
def CoveredBy (tags : SortedSet String) (directive : Directive) : Prop :=
  ∀ tag ∈ directive.tags, tag ∈ tags

theorem tag_mem_tags (directive : Directive) : directive.tag ∈ directive.tags :=
  (mem_tags_iff directive).mpr ⟨directive, .itself, rfl⟩

theorem CoveredBy.own {directive : Directive} (covered : directive.CoveredBy tags) :
    directive.tag ∈ tags := covered directive.tag directive.tag_mem_tags

theorem coveredBy_cons {first : Directive} {rest : List Directive}
    (covered : ∀ tag ∈ tagsOfAll (first :: rest), tag ∈ tags) :
    first.CoveredBy tags ∧ ∀ tag ∈ tagsOfAll rest, tag ∈ tags := by
  rw [tagsOfAll] at covered
  exact List.forall_mem_append.mp covered

theorem CoveredBy.members {members : List Directive} (covered : (anyOf members).CoveredBy tags) :
    ∀ tag ∈ tagsOfAll members, tag ∈ tags := by
  rw [CoveredBy, Directive.tags] at covered
  exact (List.forall_mem_cons.mp covered).2

/-! ### What a covered directive answers -/

mutual

theorem removes_covered [Glob.Matcher] (changed : ChangedFiles) : ∀ directive : Directive,
    directive.CoveredBy tags →
      directive.removes tags changed = directive.removes Registry.standardTags changed
  | .indexSearch _, _ => by rw [removes, removes]
  | .skipUnlessChanged _, _ => by rw [removes, removes]
  | .anyOf members, covered => by
    rw [removes, removes]
    exact removesAny_covered changed members covered.members

theorem removesAny_covered [Glob.Matcher] (changed : ChangedFiles) : ∀ members : List Directive,
    (∀ tag ∈ tagsOfAll members, tag ∈ tags) →
      removesAny tags changed members = removesAny Registry.standardTags changed members
  | [], _ => by rw [removesAny, removesAny]
  | first :: rest, covered => by
    obtain ⟨here, later⟩ := coveredBy_cons covered
    rw [removesAny, removesAny, if_pos here.own, if_pos (Registry.tag_standard first),
      removes_covered changed first here, removesAny_covered changed rest later]

end

mutual

theorem rendered_covered (context : StrategyContext) : ∀ directive : Directive,
    directive.CoveredBy tags →
      directive.rendered tags context = directive.rendered Registry.standardTags context
  | .indexSearch _, _ => by rw [rendered, rendered]
  | .skipUnlessChanged _, _ => by rw [rendered, rendered]
  | .anyOf members, covered => by
    rw [rendered, rendered]
    exact renderedOfAll_covered context members covered.members

theorem renderedOfAll_covered (context : StrategyContext) : ∀ members : List Directive,
    (∀ tag ∈ tagsOfAll members, tag ∈ tags) →
      renderedOfAll tags context members = renderedOfAll Registry.standardTags context members
  | [], _ => by rw [renderedOfAll, renderedOfAll]
  | first :: rest, covered => by
    obtain ⟨here, later⟩ := coveredBy_cons covered
    rw [renderedOfAll, renderedOfAll, if_pos here.own, if_pos (Registry.tag_standard first),
      rendered_covered context first here, renderedOfAll_covered context rest later]

end

mutual

theorem replacement_covered (context : StrategyContext) : ∀ directive : Directive,
    directive.CoveredBy tags →
      directive.replacement tags context = directive.replacement Registry.standardTags context
  | .indexSearch _, _ => by rw [replacement, replacement]
  | .skipUnlessChanged _, _ => by rw [replacement, replacement]
  | .anyOf members, covered => by
    rw [replacement, replacement]
    exact firstReplacement_covered context members covered.members

theorem firstReplacement_covered (context : StrategyContext) : ∀ members : List Directive,
    (∀ tag ∈ tagsOfAll members, tag ∈ tags) →
      firstReplacement tags context members =
        firstReplacement Registry.standardTags context members
  | [], _ => by rw [firstReplacement, firstReplacement]
  | first :: rest, covered => by
    obtain ⟨here, later⟩ := coveredBy_cons covered
    rw [firstReplacement, firstReplacement, if_pos here.own, if_pos (Registry.tag_standard first),
      replacement_covered context first here, firstReplacement_covered context rest later]

end

/-! ### Members are asked by the strategies of their tags -/

theorem exists_standard [Glob.Matcher] (tags : SortedSet String) (directive : Directive) :
    ∃ strategy, Strategy.standard? tags directive.tag = some strategy := by
  cases directive <;> exact ⟨_, rfl⟩

theorem get?_ofTags_tag [Glob.Matcher] (directive : Directive) :
    (Registry.ofTags tags).get? directive.tag =
      if directive.tag ∈ tags then Strategy.standard? tags directive.tag else none :=
  Registry.get?_ofTags tags directive.tag

/-- A composite directive asks the registry for the strategy of its next member, as a pass
does for the directive of a task. -/
theorem removesAny_dispatches [Glob.Matcher] (task : Task) (context : StrategyContext) (member : Directive)
    (rest : List Directive) :
    removesAny tags context.params.changedFiles (member :: rest) =
      match (Registry.ofTags tags).get? member.tag with
      | none => .error (.unregistered member.tag)
      | some strategy =>
        match strategy.shouldRemove task member context with
        | .error fault => .error fault
        | .ok true => .ok true
        | .ok false => removesAny tags context.params.changedFiles rest := by
  obtain ⟨strategy, known⟩ := exists_standard tags member
  rw [removesAny, get?_ofTags_tag, known]
  by_cases registered : member.tag ∈ tags
  · have answer := Strategy.shouldRemove_standard known task context
    cases asked : member.removes tags context.params.changedFiles with
    | error fault => simp only [if_pos registered, answer, asked]
    | ok removes => cases removes <;> simp only [if_pos registered, answer, asked]
  · simp only [if_neg registered]

theorem firstReplacement_dispatches [Glob.Matcher] (task : Task) (context : StrategyContext) (member : Directive)
    (rest : List Directive) :
    firstReplacement tags context (member :: rest) =
      match (Registry.ofTags tags).get? member.tag with
      | none => throw (.unregistered member.tag)
      | some strategy => strategy.shouldReplace task member context >>= fun
        | some taskId => pure (some taskId)
        | none => firstReplacement tags context rest := by
  obtain ⟨strategy, known⟩ := exists_standard tags member
  rw [firstReplacement, get?_ofTags_tag, known]
  by_cases registered : member.tag ∈ tags
  · rw [if_pos registered, if_pos registered]
    exact congrArg (· >>= _) (Strategy.shouldReplace_standard known task context).symm
  · simp only [if_neg registered]

end Directive

namespace Registry

variable {tags : SortedSet String}

theorem find_covered [Glob.Matcher] {directive : Directive} (known : directive.tag ∈ tags) :
    ∃ strategy, (ofTags tags).find directive.tag = .ok strategy ∧
      Strategy.standard? tags directive.tag = some strategy := by
  obtain ⟨strategy, standard⟩ := directive.exists_standard tags
  refine ⟨strategy, ?_, standard⟩
  rw [find, directive.get?_ofTags_tag, if_pos known, standard]

/-- A tag of a directive has a strategy exactly if it is among those of the registry. -/
theorem contains_ofTags [Glob.Matcher] {directive : Directive} {tag : String} (member : tag ∈ directive.tags) :
    (ofTags tags).contains tag = true ↔ tag ∈ tags := by
  obtain ⟨inner, -, rfl⟩ := (Directive.mem_tags_iff directive).mp member
  obtain ⟨strategy, standard⟩ := inner.exists_standard tags
  rw [KeyMap.contains, inner.get?_ofTags_tag, standard]
  split <;> simp [*]

theorem check_ok_iff [Glob.Matcher] {task : Task} : (ofTags tags).check task = .ok () ↔
    ∀ directive, task.optimization = some directive → directive.CoveredBy tags := by
  rw [check]
  cases task.optimization with
  | none => simp
  | some directive =>
    have all : (directive.tags.find? fun tag => !(ofTags tags).contains tag) = none ↔
        directive.CoveredBy tags := by
      rw [List.find?_eq_none]
      refine forall₂_congr fun tag member => ?_
      rw [Bool.not_eq_true', Bool.not_eq_false, contains_ofTags member]
    simp only [Option.map_some, Option.getD_some, Option.some.injEq, forall_eq', ← all]
    split <;> simp [*]

theorem check_error {registry : Registry} {task : Task} {fault : Error}
    (failed : registry.check task = .error fault) :
    ∃ directive tag, task.optimization = some directive ∧ tag ∈ directive.tags ∧
      registry.contains tag = false ∧ fault = .config (.unregisteredDirective task.label tag) := by
  rw [check] at failed
  cases given : task.optimization with
  | none =>
    rw [given] at failed
    cases failed
  | some directive =>
    rw [given] at failed
    simp only [Option.map_some, Option.getD_some] at failed
    split at failed
    · rename_i tag found
      cases failed
      refine ⟨directive, tag, rfl, List.mem_of_find?_eq_some found, ?_, rfl⟩
      simpa using List.find?_some found
    · cases failed

end Registry

namespace Optimize

section Matcher

variable [Glob.Matcher]

variable {params : OptimizeParams} {input : TaskGraph} {index : Index} {tags : SortedSet String}
  {removed : SortedSet String} {replaced : KeyMap String} {ids : TaskIds} {label : String}

/-- A directive inside that of the task has this tag, which has no strategy. -/
def Uncovered (registry : Registry) (input : TaskGraph) (label tag : String) : Prop :=
  ∃ task directive inner, input.get? label = some task ∧ task.optimization = some directive ∧
    Directive.Inside inner directive ∧ inner.tag = tag ∧ registry.contains tag = false

/-- All directives of the tasks are covered. -/
def Covers (tags : SortedSet String) (input : TaskGraph) : Prop :=
  ∀ label task directive, input.get? label = some task → task.optimization = some directive →
    directive.CoveredBy tags

theorem covers_iff : Covers tags input ↔ ¬ ∃ label tag, Uncovered (.ofTags tags) input label tag := by
  constructor
  · rintro covers ⟨label, tag, task, directive, inner, found, given, inside, rfl, missing⟩
    have member := (Directive.mem_tags_iff directive).mpr ⟨inner, inside, rfl⟩
    have known := (Registry.contains_ofTags member).mpr (covers label task directive found given _ member)
    rw [known] at missing
    cases missing
  · intro none label task directive found given tag member
    by_contra missing
    obtain ⟨inner, inside, same⟩ := (Directive.mem_tags_iff directive).mp member
    refine none ⟨label, tag, task, directive, inner, found, given, inside, same, ?_⟩
    rwa [← Bool.not_eq_true, Registry.contains_ofTags member]

omit [Glob.Matcher] in
/-- The check of the tasks fails only for a directive without a strategy. -/
theorem check_input_error (sound : input.Sound) {registry : Registry} {fault : Error}
    (failed : input.tasks.values.forM registry.check = .error fault) :
    ∃ label tag, Uncovered registry input label tag ∧
      fault = .config (.unregisteredDirective label tag) := by
  obtain ⟨task, member, failed⟩ := exists_forM_error failed
  obtain ⟨label, found⟩ := KeyMap.mem_values.mp member
  obtain ⟨directive, tag, given, inside, missing, rfl⟩ := Registry.check_error failed
  obtain ⟨inner, inside, same⟩ := (Directive.mem_tags_iff directive).mp inside
  rw [sound.labelled label task found]
  exact ⟨label, tag, ⟨task, directive, inner, found, given, inside, same, missing⟩, rfl⟩

theorem check_input_ok (covers : Covers tags input) :
    input.tasks.values.forM (Registry.ofTags tags).check = .ok () := by
  refine forM_ok fun task member => Registry.check_ok_iff.mpr fun directive given => ?_
  obtain ⟨label, found⟩ := KeyMap.mem_values.mp member
  exact covers label task directive found given

/-! ### Runs with strategies for all directives -/

theorem shouldRemove_covered (covers : Covers tags input) (label : String) :
    shouldRemove (.ofTags tags) params input removed label =
      shouldRemove .standard params input removed label := by
  unfold shouldRemove
  split
  · rfl
  split
  · rfl
  split
  · rfl
  rename_i task found
  split
  · rfl
  rename_i directive given
  have covered := covers label task directive found given
  obtain ⟨strategy, find, known⟩ := Registry.find_covered covered.own
  obtain ⟨other, findOther, knownOther⟩ := Registry.find_standard directive
  rw [find, findOther]
  change (strategy.shouldRemove _ _ _).mapError _ = (other.shouldRemove _ _ _).mapError _
  rw [Strategy.shouldRemove_standard known, Strategy.shouldRemove_standard knownOther,
    Directive.removes_covered _ directive covered]

theorem removals_covered (covers : Covers tags input) :
    removals (.ofTags tags) params input = removals .standard params input := by
  have same : removalStep (.ofTags tags) params input = removalStep .standard params input := by
    funext removed label
    rw [removalStep, removalStep, shouldRemove_covered covers]
  rw [removals, removals, same]

theorem candidatePaths_covered {candidate : Candidate}
    (covered : candidate.directive.CoveredBy tags) :
    candidatePaths (.ofTags tags) candidate = candidatePaths .standard candidate := by
  obtain ⟨strategy, find, known⟩ := Registry.find_covered covered.own
  obtain ⟨other, findOther, knownOther⟩ := Registry.find_standard candidate.directive
  rw [candidatePaths, candidatePaths, find, findOther]
  change Except.ok _ = Except.ok _
  rw [Strategy.lookupPaths_standard known, Strategy.lookupPaths_standard knownOther,
    Directive.rendered_covered _ _ covered]

theorem replaceCandidate_covered {candidate : Candidate}
    (covered : candidate.directive.CoveredBy tags) (replaced : KeyMap String) :
    replaceCandidate (.ofTags tags) replaced candidate =
      replaceCandidate .standard replaced candidate := by
  obtain ⟨strategy, find, known⟩ := Registry.find_covered covered.own
  obtain ⟨other, findOther, knownOther⟩ := Registry.find_standard candidate.directive
  rw [replaceCandidate, replaceCandidate, find, findOther]
  change Lookup.mapError _ (strategy.shouldReplace _ _ _) >>= _ =
    Lookup.mapError _ (other.shouldReplace _ _ _) >>= _
  rw [Strategy.shouldReplace_standard known, Strategy.shouldReplace_standard knownOther,
    Directive.replacement_covered _ _ covered]

theorem replaceLayer_covered (sound : input.Sound) (covers : Covers tags input)
    (replaced : KeyMap String) (layer : List String) :
    replaceLayer (.ofTags tags) params input removed replaced layer =
      replaceLayer .standard params input removed replaced layer := by
  rw [replaceLayer, replaceLayer]
  set candidates := layer.filterMap _ with filtered
  have covered (candidate : Candidate) (member : candidate ∈ candidates) :
      candidate.directive.CoveredBy tags := by
    obtain ⟨label, -, found⟩ := List.mem_filterMap.mp (filtered ▸ member)
    obtain ⟨-, -, present, -, given⟩ := candidate?_some sound found
    exact covers label candidate.task candidate.directive present given
  have paths : candidates.mapM (candidatePaths (.ofTags tags)) =
      candidates.mapM (candidatePaths .standard) :=
    mapM_congr fun candidate member => candidatePaths_covered (covered candidate member)
  rw [paths]
  refine bind_congr fun paths => bind_congr fun _ => ?_
  exact foldlM_congr (fun candidate member => replaceCandidate_covered (covered candidate member)) _

/-- With strategies for all directives of a graph a run is the one with all strategies. -/
theorem optimize_ofTags (sound : input.Sound) (covers : Covers tags input) :
    optimize (.ofTags tags) ids params input = optimize .standard ids params input := by
  have pass (removed : SortedSet String) :
      replaceLayer (.ofTags tags) params input removed = replaceLayer .standard params input removed := by
    funext replaced layer
    exact replaceLayer_covered sound covers replaced layer
  rw [optimize, optimize, check_input_ok covers, forM_ok fun task _ => Registry.check_standard task,
    removals_covered covers]
  simp only [replacements, pass]

/-! ### How a run fails -/

omit [Glob.Matcher] in
/-- A search that fails does so for a path that is rendered and whose look-up fails. -/
theorem firstFit_error {deadline : Option Instant} {known : KeyMap String} {paths : List String}
    {message : String} (failed : firstFit index deadline known paths = .error message) :
    ∃ template ∈ paths, ∃ path, Template.render known.get? template = .ok path ∧
      index path = .error message := by
  induction paths with
  | nil => cases failed
  | cons template rest ih =>
    have later (failed : firstFit index deadline known rest = .error message) :
        ∃ other ∈ template :: rest, ∃ path, Template.render known.get? other = .ok path ∧
          index path = .error message := by
      obtain ⟨other, member, path, under⟩ := ih failed
      exact ⟨other, List.mem_cons_of_mem _ member, path, under⟩
    rw [firstFit] at failed
    cases under : Template.render known.get? template with
    | error name =>
      rw [under] at failed
      exact later failed
    | ok path =>
      rw [under] at failed
      simp only [Except.toOption] at failed
      cases answer : index path with
      | error text =>
        rw [answer] at failed
        cases failed
        exact ⟨template, List.mem_cons_self, path, under, answer⟩
      | ok result? =>
        cases result? with
        | none =>
          rw [answer] at failed
          exact later failed
        | some result =>
          rw [answer] at failed
          simp only at failed
          split at failed
          · cases failed
          · exact later failed

theorem Fails.sought {message : String} (failed : Fails params input index label message) :
    ∃ path, Sought params input index label path ∧ index path = .error message := by
  obtain ⟨directive, known, searched, failed⟩ := failed
  obtain ⟨template, declared, path, under, answer⟩ := firstFit_error failed
  exact ⟨path, ⟨directive, known, template, searched, declared, under⟩, answer⟩

/-- The fault of a strategy that is asked about a directive of another one or that is missing
after the check, or of a task that cannot be taken out of the graph. -/
def Inconsistent : Error → Prop
  | .strategy _ _ (.mismatch _ _) => True
  | .strategy _ _ (.unregistered _) => True
  | .config (.noStrategy _) => True
  | .graph _ _ => True
  | _ => False

theorem optimize_covered_error (sound : input.Sound) (covers : Covers tags input) {fault : Error}
    (failed : ((optimize (.ofTags tags) ids params input).run index .empty).1 = .error fault) :
    FirstFailure params input index fault := by
  rw [optimize_ofTags sound covers] at failed
  obtain ⟨removed, removals⟩ := removals_standard_ok params input
  have removed_iff := mem_removals_standard sound removals
  obtain ⟨-, stops⟩ := fillLayers_filled index sound removed_iff
  obtain ⟨succeeds, fails⟩ := optimize_yields ids index sound removals
  have fresh := Cache.empty_faithful index
  cases pass : input.graph.layers.foldlM (fillLayer index params input removed) .empty with
  | ok replaced => cases failed.symm.trans (succeeds replaced pass .empty fresh).1
  | error other =>
    cases failed.symm.trans (fails other pass .empty fresh).1
    exact stops fault pass

theorem optimize_uncovered_error (sound : input.Sound) (uncovered : ¬ Covers tags input) (ids : TaskIds)
    (params : OptimizeParams) (index : Index) : ∃ label tag, Uncovered (.ofTags tags) input label tag ∧
      ((optimize (.ofTags tags) ids params input).run index .empty).1 =
        .error (.config (.unregisteredDirective label tag)) := by
  cases checked : input.tasks.values.forM (Registry.ofTags tags).check with
  | ok _ =>
    refine absurd (fun label task directive found given => ?_) uncovered
    have member : task ∈ input.tasks.values := KeyMap.mem_values.mpr ⟨label, found⟩
    exact Registry.check_ok_iff.mp (forM_passes checked task member) directive given
  | error fault =>
    obtain ⟨label, tag, missing, rfl⟩ := check_input_error sound checked
    refine ⟨label, tag, missing, ?_⟩
    rw [optimize, checked]
    rfl

/-- A run with some of the standard strategies is rejected exactly if a directive inside that
of a task, at any depth, has a tag without a strategy, and it names such a tag. Otherwise it
can only fail for a look-up that fails under a path that a task is searched for. No strategy
is asked about a directive of another one or missing later on, and all tasks can be taken
out of the graph. -/
theorem optimize_fails (reachable : input.Reachable) (tags : SortedSet String) (ids : TaskIds)
    (params : OptimizeParams) (index : Index) :
    ((∃ fault, ((optimize (.ofTags tags) ids params input).run index .empty).1 = .error fault ∧
      fault.code = "CONFIG_ERROR") ↔ ∃ label tag, Uncovered (.ofTags tags) input label tag) ∧
    ∀ fault, ((optimize (.ofTags tags) ids params input).run index .empty).1 = .error fault →
      ¬ Inconsistent fault ∧
      ((fault.code = "CONFIG_ERROR" ∧ ∃ label tag, Uncovered (.ofTags tags) input label tag ∧
          fault = .config (.unregisteredDirective label tag)) ∨
        (fault.code = "STRATEGY_ERROR" ∧ ∃ label task path message,
          input.get? label = some task ∧ Sought params input index label path ∧
          index path = .error message ∧
          fault = .strategy label task.directiveTag (.lookup message))) := by
  have sound := reachable.sound
  by_cases covers : Covers tags input
  · have failures (fault : Error)
        (failed : ((optimize (.ofTags tags) ids params input).run index .empty).1 = .error fault) :
        ∃ label task path message, input.get? label = some task ∧
          Sought params input index label path ∧ index path = .error message ∧
          fault = .strategy label task.directiveTag (.lookup message) := by
      obtain ⟨_, label, _, task, message, -, -, stopped, found, same⟩ :=
        optimize_covered_error sound covers failed
      obtain ⟨path, sought, answer⟩ := stopped.sought
      exact ⟨label, task, path, message, found, sought, answer, same⟩
    refine ⟨⟨?_, fun uncovered => absurd uncovered (covers_iff.mp covers)⟩, fun fault failed => ?_⟩
    · rintro ⟨fault, failed, code⟩
      obtain ⟨_, _, _, _, _, _, _, rfl⟩ := failures fault failed
      simp [Error.code] at code
    · obtain ⟨label, task, path, message, found, sought, answer, rfl⟩ := failures fault failed
      exact ⟨id, .inr ⟨rfl, label, task, path, message, found, sought, answer, rfl⟩⟩
  · obtain ⟨label, tag, missing, rejected⟩ :=
      optimize_uncovered_error sound covers ids params index
    refine ⟨⟨fun _ => ⟨label, tag, missing⟩, fun _ => ⟨_, rejected, rfl⟩⟩, fun fault failed => ?_⟩
    cases failed.symm.trans rejected
    exact ⟨id, .inl ⟨rfl, label, tag, missing, rfl⟩⟩

end Matcher

/-- Without a strategy for composite directives the second task is named; with one, but no
answer of the index, the path of the first task fails. -/
theorem optimize_fails_shared :
    ∃ input : TaskGraph, input.Reachable ∧
      (∃ label tag, Uncovered (.ofTags (.ofList ["index-search"])) input label tag) ∧
      ∃ path, Sought .empty input (fun _ => .error "offline") "image" path := by
  obtain ⟨input, built, h⟩ := exists_ok (x := TaskGraph.ofTasks sharedPath)
    (p := fun input =>
      (match ((optimize (.ofTags (.ofList ["index-search"])) (.sequential "t") .empty input).run
          (fun _ => .error "offline") .empty).1 with
      | .ok _ => false
      | .error fault => fault = .config (.unregisteredDirective "use" "any-of")) &&
      match ((optimize (.ofTags (.ofList ["index-search", "any-of"])) (.sequential "t") .empty input).run
          (fun _ => .error "offline") .empty).1 with
      | .ok _ => false
      | .error fault => fault = .strategy "image" "index-search" (.lookup "offline"))
    (by decide +kernel)
  obtain ⟨rejected, stopped⟩ := Bool.and_eq_true_iff.mp h
  have reachable := TaskGraph.Reachable.built built
  refine ⟨input, reachable, ?_, ?_⟩
  · split at rejected
    · cases rejected
    · rename_i fault failed
      rw [of_decide_eq_true rejected] at failed
      exact (optimize_fails reachable _ _ _ _).1.mp ⟨_, failed, rfl⟩
  · split at stopped
    · cases stopped
    · rename_i fault failed
      rw [of_decide_eq_true stopped] at failed
      obtain ⟨-, ⟨code, -⟩ | ⟨-, label, task, path, message, -, sought, -, same⟩⟩ :=
        (optimize_fails reachable _ _ _ _).2 _ failed
      · simp [Error.code] at code
      · injection same with same
        exact ⟨path, same ▸ sought⟩

end Optimize

end TaskPlan
