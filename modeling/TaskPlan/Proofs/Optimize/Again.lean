import TaskPlan.Proofs.Optimize.Run
import TaskPlan.Proofs.Reference.Template

/-!
# Optimizing again

A second run on what the first one left has nothing more to do (`optimize_again`). The
dependents that a kept task had among the survivors are all that count for its removal:
nothing that is kept has a replaced dependent, and those that were removed would be so
again (`Decides.not_skipped_left`). And a kept task that has lost its dependencies to
replacement is searched for without their ids, so under fewer paths than in the first
run, which found nothing (`Decides.nothing_left`).
-/

namespace TaskPlan

namespace Optimize

section Matcher

variable [Glob.Matcher]

variable {params : OptimizeParams} {input : TaskGraph} {index : Index} {removed : SortedSet String}
  {replaced : KeyMap String} {ids : TaskIds} {label : String}

omit [Glob.Matcher] in
theorem decisionOf_eq_keep :
    decisionOf removed replaced label = .keep ↔ label ∉ removed ∧ replaced.get? label = none := by
  refine ⟨fun kept => ?_, fun ⟨stays, absent⟩ => decisionOf_of_absent stays absent⟩
  have stays : label ∉ removed := by
    intro gone
    cases kept.symm.trans (decisionOf_eq_removed.mpr gone)
  refine ⟨stays, ?_⟩
  rw [decisionOf, if_neg stays] at kept
  cases found : replaced.get? label with
  | none => rfl
  | some id => simp [found] at kept

/-- What is replaced, but not as the run lists it, has replaced dependencies only. -/
theorem Replaced.dependency (sound : input.Sound) {id dependency : String}
    (found : Replaced params input index label id) (unlisted : params.existingTasks.get? label = none)
    (depends : input.graph.DependsOn label dependency) :
    ∃ id, Replaced params input index dependency id := by
  cases found with
  | listed _ listed =>
    rw [unlisted] at listed
    cases listed
  | found searchable replaced _ =>
    obtain ⟨name, member⟩ := depends
    have edge := sound.get?_dependencies.mpr member
    obtain ⟨id, named⟩ := searchable.named edge
    exact ⟨id, replaced name dependency id edge named⟩

/-- A task none of whose dependencies has an id has no dependency. -/
theorem Searchable.bare (sound : input.Sound) {directive : Directive} {ids : KeyMap String}
    (searchable : Searchable params input label directive ids)
    (without : ∀ name dependency id, (input.dependencies label).get? name = some dependency →
      ids.get? name ≠ some id) (dependency : String) : ¬ input.graph.DependsOn label dependency := by
  rintro ⟨name, member⟩
  have edge := sound.get?_dependencies.mpr member
  obtain ⟨id, named⟩ := searchable.named edge
  exact without name dependency id edge named

theorem Skippable.of_rebuilt {decisions : String → Decision}
    (skippable : Skippable params (input.rebuilt decisions) label) : Skippable params input label := by
  obtain ⟨free, unlisted, tracked, task, directive, patterns, present, rest⟩ := skippable
  exact ⟨free, unlisted, tracked, task, directive, patterns, (TaskGraph.get?_rebuilt.mp present).2, rest⟩

omit [Glob.Matcher] in
theorem firstFit_of_extends {deadline : Option Instant} {few many : KeyMap String}
    {paths : List String} (grown : Template.Extends few.get? many.get?)
    (nothing : firstFit index deadline many paths = .ok none) :
    firstFit index deadline few paths = .ok none := by
  rw [firstFit_eq_none_iff] at nothing ⊢
  intro path member rendered under
  exact nothing path member rendered (Template.render_of_extends grown under)

namespace Decides

section Left

variable (sound : input.Sound) (decides : Decides params input index removed replaced)
  (unlisted : params.existingTasks = .empty)
include sound decides unlisted

/-- Nothing that is left is skipped. -/
theorem not_skipped_left (label : String) :
    ¬ Skipped params (input.rebuilt (decisionOf removed replaced)) label := by
  intro skipped
  obtain ⟨-, -, -, task, _, _, present, -⟩ := skipped label .refl
  obtain ⟨kept, -⟩ := TaskGraph.get?_rebuilt.mp present
  -- up along the dependents: what is not removed is kept, with the way down to the label
  have above : ∀ d, Relation.ReflTransGen input.graph.DependsOn d label →
      d ∈ removed ∨ decisionOf removed replaced d = .keep ∧ Relation.ReflTransGen
        (input.rebuilt (decisionOf removed replaced)).graph.DependsOn d label := by
    intro d path
    induction path using Relation.ReflTransGen.head_induction_on with
    | refl => exact .inr ⟨kept, .refl⟩
    | @head d dependency depends _ ih =>
      by_cases gone : d ∈ removed
      · exact .inl gone
      rcases ih with goneToo | ⟨keptToo, path⟩
      · refine .inl ((decides.removed_iff d).mpr ?_)
        exact ((decides.removed_iff dependency).mp goneToo).dependent depends
      · have present : replaced.get? d = none := by
          refine Option.eq_none_iff_forall_ne_some.mpr fun id found => ?_
          have found := (decides.replaced_iff d id).mp found
          obtain ⟨other, found⟩ := found.dependency sound (by rw [unlisted]; rfl) depends
          have found := (decides.replaced_iff dependency other).mpr found
          rw [(decisionOf_eq_keep.mp keptToo).2] at found
          cases found
        have kept := decisionOf_of_absent gone present
        obtain ⟨name, member⟩ := depends
        exact .inr ⟨kept, path.head ⟨name, TaskGraph.mem_edges_rebuilt.mpr ⟨member, kept, keptToo⟩⟩⟩
  refine (decisionOf_eq_keep.mp kept).1 ((decides.removed_iff label).mpr fun d path => ?_)
  rcases above d path with gone | ⟨-, path⟩
  · exact (decides.removed_iff d).mp gone d .refl
  · exact (skipped d path).of_rebuilt

omit unlisted in
/-- The search for a task that is left without dependencies finds nothing. -/
theorem nothing_left {directive : Directive} {ids : KeyMap String}
    (unnamed : ∀ label task, input.get? label = some task → task.dependencies.contains "<" = false)
    (searchable : Searchable params (input.rebuilt (decisionOf removed replaced)) label directive ids)
    (bare : ∀ dependency,
      ¬ (input.rebuilt (decisionOf removed replaced)).graph.DependsOn label dependency) :
    firstFit index params.deadline ids directive.indexPaths = .ok none := by
  obtain ⟨task, present, given⟩ := searchable.given
  obtain ⟨kept, present⟩ := TaskGraph.get?_rebuilt.mp present
  obtain ⟨stays, absent⟩ := decisionOf_eq_keep.mp kept
  have leftSound := (decides.consistent sound).rebuilt_sound sound
  -- a dependency that is kept would be left, and a removed one has no kept dependent
  have all : ∀ dependency, input.graph.DependsOn label dependency →
      ∃ id, replaced.get? dependency = some id := by
    rintro dependency ⟨name, member⟩
    cases found : replaced.get? dependency with
    | some id => exact ⟨id, rfl⟩
    | none =>
      have goes : dependency ∉ removed := fun gone => stays ((decides.removed_iff label).mpr
        (((decides.removed_iff dependency).mp gone).dependent ⟨name, member⟩))
      have keptToo := decisionOf_of_absent goes found
      exact absurd ⟨name, TaskGraph.mem_edges_rebuilt.mpr ⟨member, kept, keptToo⟩⟩ (bare dependency)
  have searched : Searched params input index label directive (knownIds input replaced label) :=
    decides.searched_of_replaced sound (fun skipped => stays ((decides.removed_iff label).mpr skipped))
      searchable.allowed searchable.unlisted ⟨task, present, given⟩ all
  have grown : Template.Extends ids.get? (knownIds input replaced label).get? := by
    constructor
    · intro name id named
      have edge : name ∈ ((input.rebuilt (decisionOf removed replaced)).dependencies label).keys :=
        searchable.names ▸ KeyMap.mem_keys_iff.mpr ⟨id, named⟩
      obtain ⟨dependency, edge⟩ := KeyMap.mem_keys_iff.mp edge
      exact absurd (depends_of_dependency leftSound edge) (bare dependency)
    · intro _
      rw [get?_knownIds]
      cases edge : (input.dependencies label).get? "<" with
      | none => rfl
      | some dependency =>
        obtain ⟨other, found, declared⟩ := sound.declared _ (sound.get?_dependencies.mp edge)
        have contained := KeyMap.contains_iff.mpr ⟨dependency, declared⟩
        rw [unnamed _ other found] at contained
        cases contained
  cases outcome : firstFit index params.deadline (knownIds input replaced label)
      directive.indexPaths with
  | error message => exact absurd ⟨directive, _, searched, outcome⟩ (decides.searched label message)
  | ok found? =>
    cases found? with
    | none => exact firstFit_of_extends grown outcome
    | some id =>
      have found := Replaced.found searched.toSearchable searched.replaced outcome
      rw [← decides.replaced_iff, absent] at found
      cases found

/-- Nothing that is left is replaced. -/
theorem not_replaced_left
    (unnamed : ∀ label task, input.get? label = some task → task.dependencies.contains "<" = false)
    (label id : String) :
    ¬ Replaced params (input.rebuilt (decisionOf removed replaced)) index label id := by
  have leftSound := (decides.consistent sound).rebuilt_sound sound
  intro found
  -- by induction along the dependencies, so that the task has none that is left
  induction found with
  | listed _ listed =>
    rw [unlisted] at listed
    cases listed
  | found searchable _ first ih =>
    have bare := searchable.bare leftSound fun name dependency id edge => ih name dependency id edge
    rw [decides.nothing_left sound unnamed searchable bare] at first
    cases first

theorem not_fails_left
    (unnamed : ∀ label task, input.get? label = some task → task.dependencies.contains "<" = false)
    (label message : String) :
    ¬ Fails params (input.rebuilt (decisionOf removed replaced)) index label message := by
  rintro ⟨directive, ids, searched, failed⟩
  have leftSound := (decides.consistent sound).rebuilt_sound sound
  have bare := searched.toSearchable.bare leftSound fun name dependency id edge named =>
    decides.not_replaced_left sound unlisted unnamed dependency id
      (searched.replaced name dependency id edge named)
  rw [decides.nothing_left sound unnamed searched.toSearchable bare] at failed
  cases failed

end Left

end Decides

/-- A second run on what a run left goes well, keeps every task and leaves the same
graph, as long as the run lists no tasks to use instead. -/
theorem optimize_again (reachable : input.Reachable)
    (unnamed : ∀ label task, input.get? label = some task → task.dependencies.contains "<" = false)
    (unlisted : params.existingTasks = .empty) {out : OptimizedGraph}
    (ran : ((optimize .standard ids params input).run index .empty).1 = .ok out)
    (otherIds : TaskIds) :
    ∃ again, ((optimize .standard otherIds params out.graph).run index .empty).1 = .ok again ∧
      again.graph = out.graph ∧ again.decisions.keys = out.graph.labels ∧
      ∀ label ∈ out.graph.labels, again.decisions.get? label = some .keep := by
  have sound := reachable.sound
  have leftSound := (reachable.optimized ran).sound
  obtain ⟨removed, replaced, decides, rfl⟩ := optimize_decides sound ran
  have notSkipped := decides.not_skipped_left sound unlisted
  have notReplaced := decides.not_replaced_left sound unlisted unnamed
  have notFails := decides.not_fails_left sound unlisted unnamed
  rcases optimize_ends leftSound otherIds params index with
    ⟨removedAgain, replacedAgain, decidesAgain, ended⟩ | ⟨-, label, message, failed⟩
  · have keeps : decisionOf removedAgain replacedAgain = fun _ => .keep := by
      funext label
      refine decisionOf_of_absent (fun gone => ?_) (Option.eq_none_iff_forall_ne_some.mpr fun id found => ?_)
      · exact notSkipped label ((decidesAgain.removed_iff label).mp gone)
      · exact notReplaced label id ((decidesAgain.replaced_iff label id).mp found)
    rw [keeps] at ended
    refine ⟨_, ended, TaskGraph.rebuilt_keep leftSound, keys_decisions_settled leftSound, ?_⟩
    intro label member
    rw [keep_settled_iff leftSound, leftSound.known]
    exact ⟨rfl, KeyMap.mem_keys_iff.mp member⟩
  · exact absurd failed (notFails label message)

end Matcher

/-- An image, and a task that uses it and is looked for under a path with the image's id. -/
def imageAndNamedUse : List Task :=
  [⟨"image", "docker", .empty, .empty, some (.indexSearch ["images.latest"]), .alwaysOptimized, .null⟩,
    ⟨"use", "run", .empty, .ofList [("base", "image")],
      some (.anyOf [.skipUnlessChanged ["src"], .indexSearch ["uses.<base>", "uses.<<>"]]),
      .alwaysOptimized, .null⟩]

/-- The task that uses a replaced image is kept again. -/
theorem optimize_again_image :
    ∃ (input : TaskGraph) (out again : OptimizedGraph), input.Reachable ∧
      out.decisions.toList = [("image", .replaced "T"), ("use", .keep)] ∧
      ((optimize .standard (.sequential "u") .empty out.graph).run TaskGraph.imageIndex .empty).1 =
        .ok again ∧
      again.graph = out.graph ∧ again.decisions.get? "use" = some .keep := by
  obtain ⟨input, built, h⟩ := exists_ok (x := TaskGraph.ofTasks imageAndNamedUse)
    (p := fun input =>
      (input.tasks.toList.all fun entry => !entry.2.dependencies.contains "<") &&
      (((optimize .standard (.sequential "t") .empty input).run TaskGraph.imageIndex .empty).1.toOption.any
        fun out => out.decisions.toList = [("image", .replaced "T"), ("use", .keep)] ∧
          out.graph.labels = ["use"]))
    (by decide +kernel)
  obtain ⟨named, h⟩ := Bool.and_eq_true_iff.mp h
  obtain ⟨out, ran, h⟩ := exists_ok h
  obtain ⟨decided, labels⟩ := of_decide_eq_true h
  have reachable := TaskGraph.Reachable.built built
  have unnamed (label : String) (task : Task) (present : input.get? label = some task) :
      task.dependencies.contains "<" = false := by
    have holds := List.all_eq_true.mp named (label, task) (KeyMap.mem_toList_iff.mpr present)
    simpa using holds
  obtain ⟨again, ranAgain, same, -, keeps⟩ :=
    optimize_again reachable unnamed rfl ran (.sequential "u")
  exact ⟨input, out, again, reachable, decided, ranAgain, same, keeps "use" (by simp [labels])⟩

end Optimize

end TaskPlan
