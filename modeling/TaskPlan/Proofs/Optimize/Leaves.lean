import TaskPlan.Proofs.Index.Session
import TaskPlan.Proofs.Optimize.Coverage

/-!
# Directives and their leaves

A composite directive decides as the list of the plain directives inside it does. That
list is what a search of the index is spread over, and one search of all its paths stops at
the first that is not passed over (`StopsAt`). So nesting changes no decision
(`decides_as_leaves`).
-/

namespace TaskPlan

namespace Cache

/-- The answers to be had from the cache, or else from the index. -/
def answers (index : Index) (cache : Cache) : Index :=
  fun path => (cache.entries.get? path).getD (index path)

theorem answers_lookup (index : Index) (path : String) (cache : Cache) :
    (cache.lookup index path).2.answers index = cache.answers index := by
  unfold lookup
  cases known : cache.entries.get? path with
  | some answer => rfl
  | none =>
    funext other
    simp only [answers, ask, KeyMap.get?_insert]
    by_cases same : path = other
    · subst same
      simp [known]
    · simp [same]

end Cache

/-! ### Where a search stops -/

/-- A search does not stop at the path: it cannot be rendered, or the look-up has no result
or one that is not fit. -/
def PassedOver (answers : Index) (context : StrategyContext) (path : String) : Prop :=
  ∀ rendered, context.renderPath path = some rendered →
    ∃ answer, answers rendered = .ok answer ∧
      ∀ result ∈ answer, result.isFit context.params.deadline = false

/-- A search passes over all paths before one that is rendered as this. -/
def StopsAt (answers : Index) (context : StrategyContext) (paths : List String) (rendered : String) :
    Prop :=
  ∃ before path after, paths = before ++ path :: after ∧
    (∀ earlier ∈ before, PassedOver answers context earlier) ∧ context.renderPath path = some rendered

section FirstFit

variable {answers : Index} {context : StrategyContext} {paths : List String} {rendered : String}

theorem StopsAt.cons {path : String} (passed : PassedOver answers context path)
    (stops : StopsAt answers context paths rendered) : StopsAt answers context (path :: paths) rendered := by
  obtain ⟨before, stop, after, rfl, earlier, under⟩ := stops
  exact ⟨path :: before, stop, after, rfl, List.forall_mem_cons.mpr ⟨passed, earlier⟩, under⟩

theorem firstFit_none_iff :
    firstFit answers context.params.deadline context.dependencyIds paths = .ok none ↔
      ∀ path ∈ paths, PassedOver answers context path := by
  rw [firstFit_eq_none_iff]
  refine forall₂_congr fun path _ => forall_congr' fun rendered => ?_
  rw [StrategyContext.renderPath]
  cases Template.render context.dependencyIds.get? path <;> simp [Except.toOption]

/-- What a search finds is decided where it stops. -/
theorem firstFit_stops (stops : StopsAt answers context paths rendered) :
    (∀ message, answers rendered = .error message →
      firstFit answers context.params.deadline context.dependencyIds paths = .error message) ∧
    ∀ result, answers rendered = .ok (some result) → result.isFit context.params.deadline = true →
      firstFit answers context.params.deadline context.dependencyIds paths = .ok (some result.taskId) := by
  obtain ⟨before, path, after, rfl, earlier, under⟩ := stops
  rw [StrategyContext.renderPath] at under
  rw [firstFit_append, firstFit_none_iff.mpr earlier]
  constructor
  · intro message failed
    simp only [firstFit, under, failed]
  · intro result found fit
    simp only [firstFit, under, found, fit, if_true]

theorem passed_or_stops (answers : Index) (context : StrategyContext) (paths : List String) :
    (∀ path ∈ paths, PassedOver answers context path) ∨
      ∃ rendered, StopsAt answers context paths rendered ∧
        ((∃ message, answers rendered = .error message) ∨
          ∃ result, answers rendered = .ok (some result) ∧
            result.isFit context.params.deadline = true) := by
  induction paths with
  | nil => exact .inl (by simp)
  | cons path rest ih =>
    by_cases passed : PassedOver answers context path
    · rcases ih with all | ⟨rendered, stops, decided⟩
      · exact .inl (List.forall_mem_cons.mpr ⟨passed, all⟩)
      · exact .inr ⟨rendered, stops.cons passed, decided⟩
    · simp only [PassedOver, not_forall, not_exists, not_and, exists_prop] at passed
      obtain ⟨rendered, under, unfit⟩ := passed
      refine .inr ⟨rendered, ⟨[], path, rest, rfl, by simp, under⟩, ?_⟩
      cases answer : answers rendered with
      | error message => exact .inl ⟨message, rfl⟩
      | ok found =>
        obtain ⟨result, present, fit⟩ := unfit found answer
        obtain rfl : found = some result := present
        exact .inr ⟨result, rfl, Bool.not_eq_false _ ▸ fit⟩

theorem firstFit_some_iff {taskId : String} :
    firstFit answers context.params.deadline context.dependencyIds paths = .ok (some taskId) ↔
      ∃ rendered result, StopsAt answers context paths rendered ∧ answers rendered = .ok (some result) ∧
        result.isFit context.params.deadline = true ∧ result.taskId = taskId := by
  constructor
  · intro found
    rcases passed_or_stops answers context paths with
      all | ⟨rendered, stops, ⟨message, failed⟩ | ⟨result, present, fit⟩⟩
    · rw [firstFit_none_iff.mpr all] at found
      cases found
    · rw [(firstFit_stops stops).1 message failed] at found
      cases found
    · rw [(firstFit_stops stops).2 result present fit] at found
      cases found
      exact ⟨rendered, result, stops, present, fit, rfl⟩
  · rintro ⟨rendered, result, stops, present, fit, rfl⟩
    exact (firstFit_stops stops).2 result present fit

theorem firstFit_error_iff {message : String} :
    firstFit answers context.params.deadline context.dependencyIds paths = .error message ↔
      ∃ rendered, StopsAt answers context paths rendered ∧ answers rendered = .error message := by
  constructor
  · intro found
    rcases passed_or_stops answers context paths with
      all | ⟨rendered, stops, ⟨message, failed⟩ | ⟨result, present, fit⟩⟩
    · rw [firstFit_none_iff.mpr all] at found
      cases found
    · rw [(firstFit_stops stops).1 message failed] at found
      cases found
      exact ⟨rendered, stops, failed⟩
    · rw [(firstFit_stops stops).2 result present fit] at found
      cases found
  · rintro ⟨rendered, stops, failed⟩
    exact (firstFit_stops stops).1 message failed

end FirstFit

namespace Directive

variable {tags : SortedSet String} {context : StrategyContext}

/-- The outcome of a search depends on the answers to be had alone. -/
theorem searchIndex_run (index : Index) (cache : Cache) (paths : List String) :
    ((searchIndex context paths).run index cache).1 =
      (firstFit (cache.answers index) context.params.deadline context.dependencyIds paths).mapError
        .lookup := by
  induction paths generalizing cache with
  | nil => rfl
  | cons path rest ih =>
    rw [searchIndex, firstFit, StrategyContext.renderPath]
    cases (Template.render context.dependencyIds.get? path).toOption with
    | none => exact ih cache
    | some rendered =>
      have asked : (Lookup.ask rendered : Lookup StrategyFault Answer).run index cache =
          (.ok (cache.answers index rendered), (cache.lookup index rendered).2) :=
        congrArg (fun answer => (Except.ok answer, (cache.lookup index rendered).2))
          (Cache.lookup_answer index rendered cache)
      have later := ih (cache.lookup index rendered).2
      rw [Cache.answers_lookup] at later
      simp only [Lookup.run_bind, asked]
      cases cache.answers index rendered with
      | error message => rfl
      | ok answer =>
        cases answer with
        | none => exact later
        | some result =>
          simp only
          split
          · rfl
          · exact later

/-! ### The flat list -/

theorem leavesOfAll_append (first rest : List Directive) :
    leavesOfAll (first ++ rest) = leavesOfAll first ++ leavesOfAll rest := by
  induction first with
  | nil => simp [leavesOfAll]
  | cons member more ih => rw [List.cons_append, leavesOfAll, leavesOfAll, ih, List.append_assoc]

theorem tagsOfAll_append (first rest : List Directive) :
    tagsOfAll (first ++ rest) = tagsOfAll first ++ tagsOfAll rest := by
  induction first with
  | nil => simp [tagsOfAll]
  | cons member more ih => rw [List.cons_append, tagsOfAll, tagsOfAll, ih, List.append_assoc]

mutual

theorem leavesOfAll_leaves : ∀ directive : Directive, leavesOfAll directive.leaves = directive.leaves
  | .indexSearch paths => by simp [leaves, leavesOfAll]
  | .skipUnlessChanged patterns => by simp [leaves, leavesOfAll]
  | .anyOf members => by
    rw [leaves]
    exact leavesOfAll_leavesOfAll members

theorem leavesOfAll_leavesOfAll : ∀ members : List Directive,
    leavesOfAll (leavesOfAll members) = leavesOfAll members
  | [] => by simp [leavesOfAll]
  | first :: rest => by
    rw [leavesOfAll, leavesOfAll_append, leavesOfAll_leaves first, leavesOfAll_leavesOfAll rest]

end

mutual

theorem tags_leaves {tag : String} : ∀ directive : Directive,
    tag ∈ tagsOfAll directive.leaves → tag ∈ directive.tags
  | .indexSearch paths, member => by simpa [leaves, tagsOfAll] using member
  | .skipUnlessChanged patterns, member => by simpa [leaves, tagsOfAll] using member
  | .anyOf members, member => by
    rw [leaves] at member
    rw [Directive.tags]
    exact List.mem_cons_of_mem _ (tags_leavesOfAll members member)

theorem tags_leavesOfAll {tag : String} : ∀ members : List Directive,
    tag ∈ tagsOfAll (leavesOfAll members) → tag ∈ tagsOfAll members
  | [], member => by simpa [leavesOfAll] using member
  | first :: rest, member => by
    rw [leavesOfAll, tagsOfAll_append, List.mem_append] at member
    rw [tagsOfAll, List.mem_append]
    exact member.imp (tags_leaves first) (tags_leavesOfAll rest)

end

/-- What a directive is covered by covers its leaves. -/
theorem CoveredBy.flat {directive : Directive} (covered : directive.CoveredBy tags) :
    ∀ tag ∈ tagsOfAll directive.leaves, tag ∈ tags :=
  fun tag member => covered tag (tags_leaves directive member)

section Flat

variable {directive : Directive} (covered : directive.CoveredBy tags)

include covered

theorem flat_removes [Glob.Matcher] (task : Task) :
    (Strategy.anyOf tags).shouldRemove task (.anyOf directive.leaves) context =
      .ok (directive.leaves.any (skips context.params.changedFiles)) := by
  change removesAny tags _ directive.leaves = _
  rw [removesAny_covered _ _ covered.flat, removesAny_standard, leavesOfAll_leaves]

theorem flat_announces [Glob.Matcher] : (Strategy.anyOf tags).lookupPaths (.anyOf directive.leaves) context =
    directive.indexPaths.filterMap context.renderPath := by
  change renderedOfAll tags context directive.leaves = _
  rw [renderedOfAll_covered _ _ covered.flat, renderedOfAll_standard, leavesOfAll_leaves, indexPaths]

theorem flat_searches [Glob.Matcher] (task : Task) :
    (Strategy.anyOf tags).shouldReplace task (.anyOf directive.leaves) context =
      searchIndex context directive.indexPaths := by
  change firstReplacement tags context directive.leaves = _
  rw [firstReplacement_covered _ _ covered.flat, firstReplacement_standard, leavesOfAll_leaves, indexPaths]

end Flat

theorem skipUnlessChanged_removes_iff [Glob.Matcher] {task : Task} {patterns : List String} :
    Strategy.skipUnlessChanged.shouldRemove task (.skipUnlessChanged patterns) context = .ok true ↔
      skips context.params.changedFiles (.skipUnlessChanged patterns) = true := by
  simp [Strategy.skipUnlessChanged, removes, skips]

theorem any_skips_iff [Glob.Matcher] {task : Task} {directives : List Directive} :
    directives.any (skips context.params.changedFiles) = true ↔ ∃ patterns,
      .skipUnlessChanged patterns ∈ directives ∧
      Strategy.skipUnlessChanged.shouldRemove task (.skipUnlessChanged patterns) context = .ok true := by
  rw [List.any_eq_true]
  constructor
  · rintro ⟨leaf, member, skipped⟩
    obtain ⟨-, patterns, rfl, -⟩ := skips_iff.mp skipped
    exact ⟨patterns, member, skipUnlessChanged_removes_iff.mpr skipped⟩
  · rintro ⟨patterns, member, removed⟩
    exact ⟨_, member, skipUnlessChanged_removes_iff.mp removed⟩

/-- With a strategy for all tags inside it, a directive decides as the flat list of its
leaves does: it removes if a leaf for changed files does, announces what the leaves that
search announce, and searches as one search of all their paths does. That search finds the
first fit result unless a look-up fails before. -/
theorem decides_as_leaves [Glob.Matcher] {directive : Directive} (covered : directive.CoveredBy tags) :
    ∃ strategy, (Registry.ofTags tags).find directive.tag = .ok strategy ∧ ∀ task context,
      (strategy.shouldRemove task directive context =
          (Strategy.anyOf tags).shouldRemove task (.anyOf directive.leaves) context ∧
        strategy.lookupPaths directive context =
          (Strategy.anyOf tags).lookupPaths (.anyOf directive.leaves) context ∧
        strategy.shouldReplace task directive context =
          (Strategy.anyOf tags).shouldReplace task (.anyOf directive.leaves) context) ∧
      (∃ answer, strategy.shouldRemove task directive context = .ok answer ∧
        (answer = true ↔ ∃ patterns, .skipUnlessChanged patterns ∈ directive.leaves ∧
          Strategy.skipUnlessChanged.shouldRemove task (.skipUnlessChanged patterns) context = .ok true)) ∧
      strategy.lookupPaths directive context =
        directive.leaves.flatMap (fun leaf => leaf.ownPaths.filterMap context.renderPath) ∧
      strategy.shouldReplace task directive context =
        Strategy.indexSearch.shouldReplace task (.indexSearch directive.indexPaths) context ∧
      ∀ index cache,
        (((strategy.shouldReplace task directive context).run index cache).1 = .ok none ↔
          ∀ path ∈ directive.indexPaths, PassedOver (cache.answers index) context path) ∧
        (∀ taskId, ((strategy.shouldReplace task directive context).run index cache).1 =
            .ok (some taskId) ↔ ∃ rendered result,
          StopsAt (cache.answers index) context directive.indexPaths rendered ∧
          cache.answers index rendered = .ok (some result) ∧
          result.isFit context.params.deadline = true ∧ result.taskId = taskId) ∧
        ∀ fault, ((strategy.shouldReplace task directive context).run index cache).1 =
            .error fault ↔ ∃ rendered message,
          StopsAt (cache.answers index) context directive.indexPaths rendered ∧
          cache.answers index rendered = .error message ∧ fault = .lookup message := by
  obtain ⟨strategy, found, known⟩ := Registry.find_covered covered.own
  refine ⟨strategy, found, fun task context => ?_⟩
  have removes : strategy.shouldRemove task directive context =
      .ok (directive.leaves.any (skips context.params.changedFiles)) := by
    rw [Strategy.shouldRemove_standard known, removes_covered _ _ covered, removes_standard]
  have announces : strategy.lookupPaths directive context =
      directive.indexPaths.filterMap context.renderPath := by
    rw [Strategy.lookupPaths_standard known, rendered_covered _ _ covered, rendered_standard]
  have searches : strategy.shouldReplace task directive context =
      searchIndex context directive.indexPaths := by
    rw [Strategy.shouldReplace_standard known, replacement_covered _ _ covered, replacement_standard]
  refine ⟨⟨?_, ?_, ?_⟩, ⟨_, removes, any_skips_iff⟩, ?_, searches, fun index cache => ?_⟩
  · rw [removes, flat_removes covered]
  · rw [announces, flat_announces covered]
  · rw [searches, flat_searches covered]
  · rw [announces, indexPaths, List.filterMap_flatMap]
  · rw [searches, searchIndex_run]
    refine ⟨?_, fun taskId => ?_, fun fault => ?_⟩
    · rw [mapError_ok_iff, firstFit_none_iff]
    · rw [mapError_ok_iff, firstFit_some_iff]
    · simp only [mapError_error_iff, firstFit_error_iff]
      constructor
      · rintro ⟨message, ⟨rendered, stops, failed⟩, rfl⟩
        exact ⟨rendered, message, stops, failed, rfl⟩
      · rintro ⟨rendered, message, stops, failed, rfl⟩
        exact ⟨message, ⟨rendered, stops, failed⟩, rfl⟩

/-- An image that may be found under an older path, under one with the id of its base, and
at last under its own, unless nothing has changed that it is for. -/
def nestedImage : Directive :=
  .anyOf [.indexSearch ["images.old"], .anyOf [],
    .anyOf [.skipUnlessChanged ["docker"], .anyOf [.indexSearch ["images.<base>", "images.latest"]]],
    .indexSearch ["images.broken"]]

/-- A run for a change to the image, whose base has not been replaced. -/
def imageContext : StrategyContext :=
  ⟨{ OptimizeParams.empty with changedFiles := ⟨["docker/Dockerfile"], true⟩ }, .empty, .empty⟩

/-- An index with a result for the last path of the image that can be read. -/
def latestImage : Index := fun path =>
  if path = "images.latest" then .ok (some ⟨"T", .completed, ⟨0, 0⟩⟩)
  else if path = "images.broken" then .error "unreachable"
  else .ok none

def imageTask : Task :=
  ⟨"image", "docker", .empty, .empty, some nestedImage, .alwaysOptimized, .null⟩

theorem decides_as_leaves_nestedImage : nestedImage.CoveredBy Registry.standardTags ∧
    ∃ strategy, Registry.standard.find nestedImage.tag = .ok strategy ∧
      strategy.shouldRemove imageTask nestedImage imageContext = .ok false ∧
      strategy.lookupPaths nestedImage imageContext = ["images.old", "images.latest", "images.broken"] ∧
      ((strategy.shouldReplace imageTask nestedImage imageContext).run latestImage .empty).1 =
        .ok (some "T") ∧
      StopsAt (Cache.empty.answers latestImage) imageContext nestedImage.indexPaths "images.latest" := by
  have covered : nestedImage.CoveredBy Registry.standardTags := Registry.tags_standard nestedImage
  obtain ⟨strategy, found, decides⟩ := decides_as_leaves covered
  obtain ⟨⟨removes, announces, searches⟩, -, -, -, outcomes⟩ := decides imageTask imageContext
  have replaced : ((strategy.shouldReplace imageTask nestedImage imageContext).run latestImage .empty).1 =
      .ok (some "T") := by
    rw [searches]
    decide +kernel
  obtain ⟨rendered, result, stops, present, -, -⟩ := ((outcomes latestImage .empty).2.1 "T").mp replaced
  have last : rendered = "images.latest" := by
    simp only [Cache.answers, Cache.empty, KeyMap.get?_empty, Option.getD_none, latestImage] at present
    split at present
    · assumption
    · split at present <;> cases present
  refine ⟨covered, strategy, found, ?_, ?_, replaced, last ▸ stops⟩
  · rw [removes]
    decide +kernel
  · rw [announces]
    decide +kernel

end Directive

end TaskPlan
