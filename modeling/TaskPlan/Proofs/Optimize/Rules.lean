import TaskPlan.Proofs.Optimize.Search

/-!
# The rules of replacement

`Replaced` says by recursion along the dependencies, for an index that is asked
directly, which tasks are replaced by which. The pass goes through the layers of the
graph and fills in what the rules give for each label (`Filled`); if it fails, then for
the first label in the order of the graph whose search fails (`fillLayers_filled`).
-/

namespace TaskPlan

namespace Optimize

section Matcher

variable [Glob.Matcher]

/-- The index may be searched for the task with ids under the names of its
dependencies: it is not removed, the run leaves it free, and it has a directive. -/
structure Searchable (params : OptimizeParams) (input : TaskGraph) (label : String)
    (directive : Directive) (ids : KeyMap String) : Prop where
  stays : ¬ Skipped params input label
  allowed : label ∉ params.doNotOptimize
  unlisted : params.existingTasks.get? label = none
  given : ∃ task, input.get? label = some task ∧ task.optimization = some directive
  names : ids.keys = (input.dependencies label).keys

/-- The task with this label is replaced by the one with this id: it is listed, or all
dependencies that it still has are replaced and it is found with their ids. -/
inductive Replaced (params : OptimizeParams) (input : TaskGraph) (index : Index) :
    (label id : String) → Prop where
  | listed {label id : String} (known : label ∈ input.graph.nodes)
      (listed : params.existingTasks.get? label = some id) : Replaced params input index label id
  | found {label id : String} {directive : Directive} {ids : KeyMap String}
      (searchable : Searchable params input label directive ids)
      (replaced : ∀ name dependency id, (input.dependencies label).get? name = some dependency →
        ids.get? name = some id → Replaced params input index dependency id)
      (first : firstFit index params.deadline ids directive.indexPaths = .ok (some id)) :
      Replaced params input index label id

/-- The index is searched for the task: all its dependencies are replaced by these ids. -/
structure Searched (params : OptimizeParams) (input : TaskGraph) (index : Index) (label : String)
    (directive : Directive) (ids : KeyMap String) : Prop extends
    Searchable params input label directive ids where
  replaced : ∀ name dependency id, (input.dependencies label).get? name = some dependency →
    ids.get? name = some id → Replaced params input index dependency id

/-- The search for a task to use instead meets a failing path before a fit result. -/
def Fails (params : OptimizeParams) (input : TaskGraph) (index : Index) (label message : String) :
    Prop :=
  ∃ directive ids, Searched params input index label directive ids ∧
    firstFit index params.deadline ids directive.indexPaths = .error message

variable {params : OptimizeParams} {input : TaskGraph} {index : Index} {removed : SortedSet String}
  {replaced : KeyMap String} {label : String}

theorem Skipped.dependent {dependency : String} (skipped : Skipped params input dependency)
    (depends : input.graph.DependsOn label dependency) : Skipped params input label :=
  fun d path => skipped d (path.tail depends)

/-! ### Candidates -/

omit [Glob.Matcher] in
theorem finalize_of_replaced {entries : List (String × String)}
    (all : ∀ entry ∈ entries, ∃ id, replaced.get? entry.2 = some id) :
    finalize removed replaced entries = some (entries.filterMap fun entry =>
      (replaced.get? entry.2).map fun id => (entry.1, id), []) := by
  induction entries with
  | nil => rfl
  | cons entry rest ih =>
    obtain ⟨name, dependency⟩ := entry
    obtain ⟨id, found⟩ := all _ List.mem_cons_self
    have others := ih fun entry member => all entry (List.mem_cons_of_mem _ member)
    rw [finalize, found, others, List.filterMap_cons, found]
    rfl

omit [Glob.Matcher] in
theorem replaced_of_finalize {entries : List (String × String)} {found : List (String × String) × List String}
    (stay : ∀ entry ∈ entries, entry.2 ∉ removed)
    (h : finalize removed replaced entries = some found) :
    ∀ entry ∈ entries, ∃ id, replaced.get? entry.2 = some id := by
  induction entries generalizing found with
  | nil => simp
  | cons entry rest ih =>
    obtain ⟨name, dependency⟩ := entry
    rw [finalize] at h
    cases present : replaced.get? dependency with
    | none =>
      rw [present] at h
      simp only at h
      rw [if_neg (stay _ List.mem_cons_self)] at h
      cases h
    | some id =>
      rw [present] at h
      obtain ⟨others, later, -⟩ := Option.bind_eq_some_iff.mp h
      intro entry member
      rcases List.mem_cons.mp member with rfl | member
      · exact ⟨id, present⟩
      · exact ih (fun entry member => stay entry (List.mem_cons_of_mem _ member)) later entry member

def Known (params : OptimizeParams) (input : TaskGraph) (index : Index) (label : String)
    (replaced : KeyMap String) : Prop :=
  ∀ dependency id, input.graph.DependsOn label dependency →
    (replaced.get? dependency = some id ↔ Replaced params input index dependency id)

omit [Glob.Matcher] in
theorem depends_of_dependency (sound : input.Sound) {name dependency : String}
    (edge : (input.dependencies label).get? name = some dependency) :
    input.graph.DependsOn label dependency := ⟨name, sound.get?_dependencies.mp edge⟩

def knownIds (input : TaskGraph) (replaced : KeyMap String) (label : String) : KeyMap String :=
  .ofList ((input.dependencies label).toList.filterMap fun entry =>
    (replaced.get? entry.2).map fun id => (entry.1, id))

omit [Glob.Matcher] in
theorem get?_knownIds (name : String) :
    (knownIds input replaced label).get? name =
      ((input.dependencies label).get? name).bind replaced.get? :=
  KeyMap.get?_ofList_filterMap replaced.get? (input.dependencies label) name

omit [Glob.Matcher] in
theorem keys_knownIds
    (all : ∀ entry ∈ (input.dependencies label).toList, ∃ id, replaced.get? entry.2 = some id) :
    (knownIds input replaced label).keys = (input.dependencies label).keys := by
  apply KeyMap.keys_eq
  intro name
  rw [KeyMap.mem_keys, KeyMap.mem_keys, KeyMap.contains, KeyMap.contains, get?_knownIds]
  cases edge : (input.dependencies label).get? name with
  | none => rfl
  | some dependency =>
    obtain ⟨id, found⟩ := all (name, dependency) (KeyMap.mem_toList_iff.mpr edge)
    rw [Option.bind_some, found]
    rfl

theorem candidate?_searched (sound : input.Sound)
    (removed_iff : ∀ x, x ∈ removed ↔ Skipped params input x)
    (known : Known params input index label replaced) {candidate : Candidate}
    (h : candidate? params input removed replaced label = some candidate) :
    Searched params input index label candidate.directive candidate.context.dependencyIds ∧
      candidate.context.params = params := by
  rw [candidate?_eq] at h
  split at h
  · cases h
  rename_i open'
  rw [not_or, Bool.not_eq_false, isFree_iff] at open'
  obtain ⟨stays, allowed, unlisted⟩ := open'
  obtain ⟨task, found, h⟩ := Option.bind_eq_some_iff.mp h
  obtain ⟨directive, given, h⟩ := Option.bind_eq_some_iff.mp h
  obtain ⟨_, finalized, rfl⟩ := Option.map_eq_some_iff.mp h
  have depends (entry : String × String) (member : entry ∈ (input.dependencies label).toList) :
      input.graph.DependsOn label entry.2 :=
    depends_of_dependency sound (KeyMap.mem_toList_iff.mp member)
  -- a task without one of its dependencies would be removed itself
  have stay : ∀ entry ∈ (input.dependencies label).toList, entry.2 ∉ removed := by
    intro entry member gone
    exact stays ((removed_iff label).mpr
      (((removed_iff entry.2).mp gone).dependent (depends entry member)))
  have all := replaced_of_finalize stay finalized
  rw [finalize_of_replaced all] at finalized
  cases finalized
  refine ⟨⟨⟨?_, allowed, unlisted, ⟨task, found, given⟩, keys_knownIds all⟩, ?_⟩, rfl⟩
  · rwa [removed_iff] at stays
  · intro name dependency id edge named
    rw [← knownIds, get?_knownIds, edge, Option.bind_some] at named
    exact (known dependency id (depends_of_dependency sound edge)).mp named

theorem Searchable.named {directive : Directive} {ids : KeyMap String}
    (searchable : Searchable params input label directive ids) {name dependency : String}
    (edge : (input.dependencies label).get? name = some dependency) : ∃ id, ids.get? name = some id :=
  KeyMap.mem_keys_iff.mp (searchable.names ▸ KeyMap.mem_keys_iff.mpr ⟨dependency, edge⟩)

/-- What has been done fixes the ids that a search is made with. -/
theorem Searched.eq_knownIds (sound : input.Sound) (known : Known params input index label replaced)
    {directive : Directive} {ids : KeyMap String}
    (searched : Searched params input index label directive ids) :
    ids = knownIds input replaced label := by
  apply KeyMap.ext_get?
  intro name
  rw [get?_knownIds]
  cases edge : (input.dependencies label).get? name with
  | some dependency =>
    obtain ⟨id, named⟩ := searched.toSearchable.named edge
    have found := searched.replaced name dependency id edge named
    rw [named, Option.bind_some,
      (known dependency id (depends_of_dependency sound edge)).mpr found]
  | none =>
    refine Option.eq_none_iff_forall_ne_some.mpr fun id named => ?_
    have declared := KeyMap.mem_keys_iff.mpr ⟨id, named⟩
    rw [searched.names, KeyMap.mem_keys_iff, edge] at declared
    obtain ⟨_, absent⟩ := declared
    cases absent

theorem candidate?_of_searched (sound : input.Sound)
    (removed_iff : ∀ x, x ∈ removed ↔ Skipped params input x)
    (known : Known params input index label replaced) {directive : Directive} {ids : KeyMap String}
    (searched : Searched params input index label directive ids) :
    ∃ candidate, candidate? params input removed replaced label = some candidate ∧
      candidate.directive = directive ∧ candidate.context.dependencyIds = ids := by
  obtain ⟨task, found, given⟩ := searched.given
  have all : ∀ entry ∈ (input.dependencies label).toList, ∃ id, replaced.get? entry.2 = some id := by
    intro entry member
    have edge := KeyMap.mem_toList_iff.mp member
    obtain ⟨id, named⟩ := searched.toSearchable.named edge
    exact ⟨id, (known entry.2 id (depends_of_dependency sound edge)).mpr
      (searched.replaced entry.1 entry.2 id edge named)⟩
  have open' : ¬ (label ∈ removed ∨ params.isFree label = false) := by
    rw [not_or, Bool.not_eq_false, isFree_iff, removed_iff]
    exact ⟨searched.stays, searched.allowed, searched.unlisted⟩
  refine ⟨⟨task, directive, ⟨params, knownIds input replaced label, .ofList []⟩⟩, ?_, rfl,
    (searched.eq_knownIds sound known).symm⟩
  rw [candidate?_eq, if_neg open', found, Option.bind_some, given, Option.bind_some,
    finalize_of_replaced all]
  rfl

theorem not_candidate (sound : input.Sound)
    (removed_iff : ∀ x, x ∈ removed ↔ Skipped params input x)
    (known : Known params input index label replaced)
    (h : candidate? params input removed replaced label = none) :
    (∀ id, Replaced params input index label id → params.existingTasks.get? label = some id) ∧
      ∀ message, ¬ Fails params input index label message := by
  have noSearch {directive : Directive} {ids : KeyMap String} :
      ¬ Searched params input index label directive ids := by
    intro searched
    obtain ⟨candidate, some, -⟩ := candidate?_of_searched sound removed_iff known searched
    rw [h] at some
    cases some
  constructor
  · intro id found
    cases found with
    | listed _ listed => exact listed
    | found searchable replaced _ => exact absurd ⟨searchable, replaced⟩ noSearch
  · rintro message ⟨directive, ids, searched, -⟩
    exact noSearch searched

theorem candidate_decides (sound : input.Sound)
    (removed_iff : ∀ x, x ∈ removed ↔ Skipped params input x)
    (known : Known params input index label replaced) {candidate : Candidate}
    (h : candidate? params input removed replaced label = some candidate) {answer}
    (search : firstFit index candidate.context.params.deadline candidate.context.dependencyIds
      candidate.directive.indexPaths = answer) :
    params.existingTasks.get? label = none ∧
      (∀ id, Replaced params input index label id ↔ answer = .ok (some id)) ∧
      ∀ message, Fails params input index label message ↔ answer = .error message := by
  obtain ⟨searched, same⟩ := candidate?_searched sound removed_iff known h
  rw [same] at search
  -- what has been done fixes the ids of the dependencies, so there is no other search
  have only {directive : Directive} {ids : KeyMap String}
      (other : Searched params input index label directive ids) :
      firstFit index params.deadline ids directive.indexPaths = answer := by
    obtain ⟨candidate', some, rfl, rfl⟩ := candidate?_of_searched sound removed_iff known other
    cases h.symm.trans some
    exact search
  refine ⟨searched.unlisted, fun id => ⟨fun found => ?_, fun found => ?_⟩,
    fun message => ⟨?_, fun failed => ?_⟩⟩
  · cases found with
    | listed _ listed =>
      rw [searched.unlisted] at listed
      cases listed
    | found searchable replaced first => exact (only ⟨searchable, replaced⟩).symm.trans first
  · exact .found searched.toSearchable searched.replaced (search.trans found)
  · rintro ⟨directive, ids, other, failed⟩
    exact (only other).symm.trans failed
  · exact ⟨_, _, searched, search.trans failed⟩

/-! ### The pass -/

/-- The ids are those of the labels that are done by the rules, and those that the run
lists for the labels of a layer; no search has failed. -/
structure Filled (params : OptimizeParams) (input : TaskGraph) (index : Index)
    (done layer : List String) (replaced : KeyMap String) : Prop where
  ids : ∀ label id, replaced.get? label = some id ↔
    (label ∈ done ∧ Replaced params input index label id) ∨
      (label ∈ layer ∧ params.existingTasks.get? label = some id)
  searched : ∀ label ∈ done, ∀ message, ¬ Fails params input index label message

variable {done layer : List String}

theorem Replaced.eq_listed {id other : String} (listed : params.existingTasks.get? label = some id)
    (found : Replaced params input index label other) : other = id := by
  cases found with
  | listed _ also => exact Option.some.inj (also.symm.trans listed)
  | found searchable _ _ =>
    rw [searchable.unlisted] at listed
    cases listed

theorem Filled.listed (filled : Filled params input index done [] replaced)
    (removed_iff : ∀ x, x ∈ removed ↔ Skipped params input x) :
    Filled params input index done layer (replaceExisting params removed layer replaced) := by
  refine ⟨fun label id => ?_, filled.searched⟩
  have before := filled.ids label id
  simp only [List.not_mem_nil, false_and, or_false] at before
  rw [get?_replaceExisting]
  split
  · rename_i open'
    cases listed : params.existingTasks.get? label with
    | none => simpa using before
    | some taskId =>
      rw [Option.some_or, Option.some.injEq]
      constructor
      · rintro rfl
        exact .inr ⟨open'.1, rfl⟩
      · rintro (⟨-, found⟩ | ⟨-, same⟩)
        · exact (found.eq_listed listed).symm
        · exact same
  · rename_i closed
    rw [before, or_iff_left]
    rintro ⟨member, listed⟩
    -- what the run lists is not free and so not removed
    refine closed ⟨member, fun gone => ?_⟩
    have skippable := (removed_iff label).mp gone label .refl
    rw [skippable.2.1] at listed
    cases listed

theorem Filled.finish (filled : Filled params input index (done ++ layer) layer replaced)
    (inside : ∀ label ∈ layer, label ∈ input.graph.nodes) :
    Filled params input index (done ++ layer) [] replaced := by
  refine ⟨fun label id => ?_, filled.searched⟩
  rw [filled.ids]
  simp only [List.not_mem_nil, false_and, or_false]
  rw [or_iff_left_of_imp]
  rintro ⟨member, listed⟩
  exact ⟨List.mem_append_right _ member, .listed (inside label member) listed⟩

/-- The first label in the order of the graph for which the search fails, with the
failure of the run. -/
def FirstFailure (params : OptimizeParams) (input : TaskGraph) (index : Index) (fault : Error) :
    Prop :=
  ∃ before label after task message, input.graph.postorder = before ++ label :: after ∧
    (∀ other ∈ before, ∀ message, ¬ Fails params input index other message) ∧
    Fails params input index label message ∧ input.get? label = some task ∧
    fault = .strategy label task.directiveTag (.lookup message)

def fillLabel (index : Index) (params : OptimizeParams) (input : TaskGraph)
    (removed : SortedSet String) (existing replaced : KeyMap String) (label : String) :
    Result (KeyMap String) :=
  match candidate? params input removed existing label with
  | some candidate => fill index replaced candidate
  | none => .ok replaced

omit [Glob.Matcher] in
theorem fillLayer_eq :
    fillLayer index params input removed replaced layer =
      layer.foldlM (fillLabel index params input removed
        (replaceExisting params removed layer replaced)) (replaceExisting params removed layer replaced) := by
  rw [fillLayer, List.foldlM_filterMap]
  refine congrArg (fun step => layer.foldlM step _) (funext fun ids => funext fun label => ?_)
  rw [fillLabel]
  cases candidate? params input removed (replaceExisting params removed layer replaced) label <;> rfl

theorem Filled.update {next : KeyMap String} (filled : Filled params input index done layer replaced)
    (others : ∀ other, other ≠ label → next.get? other = replaced.get? other)
    (own : ∀ id, next.get? label = some id ↔ Replaced params input index label id ∨
      (label ∈ layer ∧ params.existingTasks.get? label = some id))
    (searched : ∀ message, ¬ Fails params input index label message) :
    Filled params input index (done ++ [label]) layer next := by
  have mem_done (other : String) : other ∈ done ++ [label] ↔ other = label ∨ other ∈ done := by
    rw [List.mem_append, List.mem_singleton, or_comm]
  refine ⟨fun other id => ?_, fun other inside => ?_⟩
  · rw [mem_done]
    by_cases here : other = label
    · subst here
      rw [own]
      simp only [true_or, true_and]
    · rw [others other here, filled.ids]
      simp only [here, false_or]
  · rcases (mem_done other).mp inside with rfl | old
    · exact searched
    · exact filled.searched other old

theorem Filled.step (sound : input.Sound)
    (removed_iff : ∀ x, x ∈ removed ↔ Skipped params input x) {existing : KeyMap String}
    (known : Known params input index label existing) (member : label ∈ layer)
    (filled : Filled params input index done layer replaced) :
    (∀ next, fillLabel index params input removed existing replaced label = .ok next →
      Filled params input index (done ++ [label]) layer next) ∧
    ∀ fault, fillLabel index params input removed existing replaced label = .error fault →
      ∃ task message, Fails params input index label message ∧ input.get? label = some task ∧
        fault = .strategy label task.directiveTag (.lookup message) := by
  rw [fillLabel]
  cases h : candidate? params input removed existing label with
  | none =>
    obtain ⟨listed, searched⟩ := not_candidate sound removed_iff known h
    refine ⟨fun next same => ?_, fun _ failed => by cases failed⟩
    cases same
    -- if the label has an id then since the beginning of the layer
    refine filled.update (fun _ _ => rfl) (fun id => ?_) searched
    rw [filled.ids]
    constructor
    · exact Or.imp_left And.right
    · rintro (found | already)
      · exact .inr ⟨member, listed id found⟩
      · exact .inr already
  | some candidate =>
    obtain ⟨-, -, present, same, -⟩ := candidate?_some sound h
    obtain ⟨unlisted, replaced_iff, fails_iff⟩ := candidate_decides sound removed_iff known h rfl
    simp only [fill]
    cases answer : firstFit index candidate.context.params.deadline candidate.context.dependencyIds
        candidate.directive.indexPaths with
    | error message =>
      refine ⟨fun _ stepped => (by cases stepped), fun fault failed => ?_⟩
      cases failed
      exact ⟨candidate.task, message, (fails_iff message).mpr answer, present, by rw [← same]; rfl⟩
    | ok found? =>
      have searched (message : String) : ¬ Fails params input index label message := by
        rw [fails_iff, answer]
        intro failed
        cases failed
      cases found? with
      | none =>
        refine ⟨fun next stepped => ?_, fun _ failed => by cases failed⟩
        cases stepped
        refine filled.update (fun _ _ => rfl) (fun id => ?_) searched
        rw [filled.ids]
        simp [replaced_iff, answer, unlisted]
      | some taskId =>
        refine ⟨fun next stepped => ?_, fun _ failed => by cases failed⟩
        cases stepped
        rw [same]
        refine filled.update (fun other different => ?_) (fun id => ?_) searched
        · rw [KeyMap.get?_insert, if_neg (Ne.symm different)]
        · rw [KeyMap.get?_insert, if_pos rfl]
          simp [replaced_iff, answer, unlisted]

/-- What the labels of a layer depend on has been done with the layers before. -/
theorem Filled.known (sound : input.Sound)
    (removed_iff : ∀ x, x ∈ removed ↔ Skipped params input x) {before after : List (List String)}
    (split : input.graph.layers = before ++ layer :: after)
    (filled : Filled params input index before.flatten [] replaced) (member : label ∈ layer) :
    Known params input index label (replaceExisting params removed layer replaced) := by
  have start : Filled params input index before.flatten layer
      (replaceExisting params removed layer replaced) := filled.listed removed_iff
  intro dependency id depends
  have earlier := Graph.dependency_in_earlier_layer sound.acyclic sound.ends split member depends
  rw [start.ids]
  constructor
  · rintro (⟨-, found⟩ | ⟨_, listed⟩)
    · exact found
    · exact .listed (depends.known sound.ends).2 listed
  · exact fun found => .inl ⟨earlier, found⟩

theorem Filled.through (sound : input.Sound)
    (removed_iff : ∀ x, x ∈ removed ↔ Skipped params input x) {before after : List (List String)}
    (split : input.graph.layers = before ++ layer :: after)
    (filled : Filled params input index before.flatten [] replaced) :
    (∀ next, fillLayer index params input removed replaced layer = .ok next →
      Filled params input index (before ++ [layer]).flatten [] next) ∧
    ∀ fault, fillLayer index params input removed replaced layer = .error fault →
      FirstFailure params input index fault := by
  have inside := Graph.mem_nodes_of_mem_layer sound.acyclic sound.ends split
  rw [fillLayer_eq]
  have start : Filled params input index before.flatten layer
      (replaceExisting params removed layer replaced) := filled.listed removed_iff
  have known (label : String) (member : label ∈ layer) := filled.known sound removed_iff split member
  set existing := replaceExisting params removed layer replaced
  obtain ⟨goesOn, stops⟩ : (∀ last,
      layer.foldlM (fillLabel index params input removed existing) existing = .ok last →
        Filled params input index (before.flatten ++ layer) layer last) ∧
      ∀ fault, layer.foldlM (fillLabel index params input removed existing) existing = .error fault →
        FirstFailure params input index fault := by
    refine foldlM_outcome (fun done => Filled params input index (before.flatten ++ done) layer)
      (FirstFailure params input index) ?_ (by simpa using start)
    intro done label rest current place filled
    have member : label ∈ layer := by simp [place]
    obtain ⟨goesOn, stops⟩ := filled.step sound removed_iff (known label member) member
    refine ⟨fun next stepped => ?_, fun fault failed => ?_⟩
    · rw [← List.append_assoc]
      exact goesOn next stepped
    · obtain ⟨task, message, fails, found, same⟩ := stops fault failed
      refine ⟨before.flatten ++ done, label, rest ++ after.flatten, task, message, ?_,
        filled.searched, fails, found, same⟩
      rw [Graph.postorder, split, place]
      simp
  refine ⟨fun next ended => ?_, stops⟩
  rw [List.flatten_append, List.flatten_singleton]
  exact (goesOn next ended).finish inside

/-- The whole pass fills in what the rules give for every label, or fails for the first
label whose search fails. -/
theorem fillLayers_filled (index : Index) (sound : input.Sound)
    (removed_iff : ∀ x, x ∈ removed ↔ Skipped params input x) :
    (∀ replaced, input.graph.layers.foldlM (fillLayer index params input removed) .empty =
        .ok replaced → Filled params input index input.graph.postorder [] replaced) ∧
      ∀ fault, input.graph.layers.foldlM (fillLayer index params input removed) .empty =
        .error fault → FirstFailure params input index fault := by
  refine foldlM_outcome (fun done => Filled params input index done.flatten [])
    (FirstFailure params input index) ?_ ⟨by simp, by simp⟩
  intro before layer after replaced split filled
  exact filled.through sound removed_iff split

theorem Searchable.known (sound : input.Sound) {directive : Directive} {ids : KeyMap String}
    (searchable : Searchable params input label directive ids) : label ∈ input.graph.nodes := by
  obtain ⟨task, present, -⟩ := searchable.given
  exact (sound.known label).mpr ⟨task, present⟩

theorem Replaced.known (sound : input.Sound) {id : String}
    (found : Replaced params input index label id) : label ∈ input.graph.nodes := by
  cases found with
  | listed known _ => exact known
  | found searchable _ _ => exact searchable.known sound

theorem replacements_gives
    (pass : input.graph.layers.foldlM (fillLayer index params input removed) .empty = .ok replaced) :
    Lookup.Gives index (replacements .standard params input removed) replaced :=
  ⟨.empty, (replacements_yields .empty (Cache.empty_faithful index)).1.trans pass⟩

/-- What is remembered does not matter to a run: it ends as the pass over the layers
does that asks the index itself. -/
theorem optimize_yields (ids : TaskIds) (index : Index) (sound : input.Sound)
    (removals : removals .standard params input = .ok removed) :
    (∀ replaced, input.graph.layers.foldlM (fillLayer index params input removed) .empty =
        .ok replaced → Lookup.Yields index (optimize .standard ids params input)
          (.ok (settled ids input (decisionOf removed replaced)))) ∧
      ∀ fault, input.graph.layers.foldlM (fillLayer index params input removed) .empty =
        .error fault → Lookup.Yields index (optimize .standard ids params input) (.error fault) := by
  have pass : Lookup.Yields index (replacements .standard params input removed)
      (input.graph.layers.foldlM (fillLayer index params input removed) .empty) := replacements_yields
  rw [optimize, forM_ok fun task _ => Registry.check_standard task, removals]
  constructor
  · intro replaced filled
    rw [filled] at pass
    have within := replacements_within sound (replacements_gives filled)
    have settled_ok : settle ids input removed replaced =
        .ok (settled ids input (decisionOf removed replaced)) := by
      rw [settle, survivors_rebuilt sound (removals_known sound removals) within]
      rfl
    refine (Lookup.Yields.ofResult _).bind_ok ((Lookup.Yields.ofResult _).bind_ok (pass.bind_ok ?_))
    rw [settled_ok]
    exact Lookup.Yields.ofResult _
  · intro fault failed
    rw [failed] at pass
    exact (Lookup.Yields.ofResult _).bind_ok
      ((Lookup.Yields.ofResult _).bind_ok (Lookup.Yields.bind_error _ pass))

/-- An optimization with the standard strategies agrees with the rules, which ask the
index itself. If it goes well no search fails, and the removed and the replaced tasks
are those of the rules; if not, it names the first task whose search fails. -/
theorem optimize_standard (reachable : input.Reachable) (ids : TaskIds) (params : OptimizeParams)
    (index : Index) :
    (∀ out, ((optimize .standard ids params input).run index .empty).1 = .ok out →
      (∀ label, out.decisions.get? label = some .removed ↔ Skipped params input label) ∧
      (∀ label id, out.decisions.get? label = some (.replaced id) ↔
        Replaced params input index label id) ∧
      ∀ label message, ¬ Fails params input index label message) ∧
    ∀ fault, ((optimize .standard ids params input).run index .empty).1 = .error fault →
      fault.code = "STRATEGY_ERROR" ∧ FirstFailure params input index fault := by
  have sound := reachable.sound
  obtain ⟨removed, removals⟩ := removals_standard_ok params input
  have removed_iff := mem_removals_standard sound removals
  obtain ⟨fills, stops⟩ := fillLayers_filled index sound removed_iff
  obtain ⟨succeeds, fails⟩ := optimize_yields ids index sound removals
  have fresh := Cache.empty_faithful index
  cases pass : input.graph.layers.foldlM (fillLayer index params input removed) .empty with
  | ok replaced =>
    rw [(succeeds replaced pass .empty fresh).1]
    refine ⟨fun out ended => ?_, nofun⟩
    cases ended
    have filled := fills replaced pass
    have gives := replacements_gives pass
    have consistent := decisionOf_consistent sound removals gives
    refine ⟨fun label => ?_, fun label id => ?_, fun label message failed => ?_⟩
    · rw [decisions_settled_iff sound consistent (by simp), decisionOf_eq_removed, removed_iff]
    · rw [decisions_settled_iff sound consistent (by simp),
        decisionOf_eq_replaced (replacements_within sound gives), filled.ids, sound.mem_postorder]
      simp only [List.not_mem_nil, false_and, or_false]
      exact and_iff_right_of_imp fun found => found.known sound
    · obtain ⟨directive, found, searched, stopped⟩ := failed
      have known := sound.mem_postorder.mpr (searched.toSearchable.known sound)
      exact filled.searched label known message ⟨directive, found, searched, stopped⟩
  | error fault =>
    rw [(fails fault pass .empty fresh).1]
    refine ⟨nofun, fun fault' ended => ?_⟩
    cases ended
    have first := stops fault pass
    refine ⟨?_, first⟩
    obtain ⟨_, _, _, _, _, _, _, _, _, rfl⟩ := first
    rfl

end Matcher

/-- The image is replaced by what the index has, and without an answer of the index its
search is the first to fail. -/
theorem optimize_standard_image :
    ∃ input : TaskGraph, input.Reachable ∧
      Replaced .empty input TaskGraph.imageIndex "image" "T" ∧
      FirstFailure .empty input (fun _ => .error "offline")
        (.strategy "image" "index-search" (.lookup "offline")) := by
  obtain ⟨input, built, h⟩ := exists_ok (x := TaskGraph.ofTasks TaskGraph.imageAndUse)
    (p := fun input =>
      (((optimize .standard (.sequential "t") .empty input).run TaskGraph.imageIndex .empty).1.toOption.any
        fun out => out.decisions.get? "image" = some (.replaced "T")) &&
      match ((optimize .standard (.sequential "t") .empty input).run
          (fun _ => .error "offline") .empty).1 with
      | .ok _ => false
      | .error fault => fault = .strategy "image" "index-search" (.lookup "offline"))
    (by decide +kernel)
  obtain ⟨found, failed⟩ := Bool.and_eq_true_iff.mp h
  have reachable := TaskGraph.Reachable.built built
  refine ⟨input, reachable, ?_, ?_⟩
  · obtain ⟨out, ran, decided⟩ := exists_ok found
    obtain ⟨-, replaced_iff, -⟩ := (optimize_standard reachable _ _ _).1 out ran
    exact (replaced_iff "image" "T").mp (of_decide_eq_true decided)
  · split at failed
    · cases failed
    · rename_i fault ran
      have first := ((optimize_standard reachable _ _ _).2 fault ran).2
      rwa [of_decide_eq_true failed] at first

end Optimize

end TaskPlan
