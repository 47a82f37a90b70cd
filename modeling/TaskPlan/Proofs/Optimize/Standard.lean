import TaskPlan.Optimize.Standard
import TaskPlan.Proofs.Optimize.Decisions

/-!
# What the standard strategies remove

The standard registry has a strategy for every directive, which answers as the
directive says. A directive removes its task if some plain directive inside it does
(`removes_standard`), so that a run removes a task exactly if nothing that the task
is for has changed, for the task and all that depend on it (`mem_removals_standard`).
-/

namespace TaskPlan

namespace Registry

theorem get?_ofTags [Glob.Matcher] (tags : SortedSet String) (tag : String) :
    (ofTags tags).get? tag = if tag ∈ tags then Strategy.standard? tags tag else none :=
  KeyMap.get?_ofList_filterMap_labelled (Strategy.standard? tags) tags.toList tag

theorem tag_standard (directive : Directive) : directive.tag ∈ standardTags := by
  cases directive <;> simp [standardTags, Directive.tag]

mutual

theorem tags_standard : ∀ directive : Directive, ∀ tag ∈ directive.tags, tag ∈ standardTags
  | .indexSearch _, tag, member => by simp_all [standardTags, Directive.tags]
  | .skipUnlessChanged _, tag, member => by simp_all [standardTags, Directive.tags]
  | .anyOf members, tag, member => by
    rw [Directive.tags] at member
    rcases List.mem_cons.mp member with rfl | inside
    · exact tag_standard (.anyOf members)
    · exact tagsOfAll_standard members tag inside

theorem tagsOfAll_standard :
    ∀ members : List Directive, ∀ tag ∈ Directive.tagsOfAll members, tag ∈ standardTags
  | [], tag, member => by simp [Directive.tagsOfAll] at member
  | first :: rest, tag, member => by
    rw [Directive.tagsOfAll] at member
    rcases List.mem_append.mp member with here | later
    · exact tags_standard first tag here
    · exact tagsOfAll_standard rest tag later

end

theorem find_standard [Glob.Matcher] (directive : Directive) :
    ∃ strategy, standard.find directive.tag = .ok strategy ∧
      Strategy.standard? standardTags directive.tag = some strategy := by
  have found := get?_ofTags standardTags directive.tag
  rw [if_pos (tag_standard directive)] at found
  have known : ∃ strategy, Strategy.standard? standardTags directive.tag = some strategy := by
    cases directive <;> exact ⟨_, rfl⟩
  obtain ⟨strategy, known⟩ := known
  refine ⟨strategy, ?_, known⟩
  rw [find, standard, found, known]

theorem check_standard [Glob.Matcher] (task : Task) : standard.check task = .ok () := by
  have known (tag : String) (member : tag ∈ standardTags) : standard.contains tag = true := by
    rw [KeyMap.contains, standard, get?_ofTags, if_pos member]
    simp only [standardTags, SortedSet.mem_ofList, List.mem_cons, List.not_mem_nil, or_false] at member
    rcases member with rfl | rfl | rfl <;> rfl
  have all : ((task.optimization.map Directive.tags).getD []).find?
      (fun tag => !standard.contains tag) = none := by
    refine List.find?_eq_none.mpr fun tag member => ?_
    cases given : task.optimization with
    | none => simp [given] at member
    | some directive =>
      rw [given] at member
      simp [known tag (tags_standard directive tag member)]
  simp only [check, all]

end Registry

/-! ### What a directive removes -/

namespace Directive

variable [Glob.Matcher]

variable {registered : SortedSet String}

/-- A plain directive says that nothing its task is for has changed. -/
def skips (changed : ChangedFiles) : Directive → Bool
  | .skipUnlessChanged patterns => changed.tracked && !changed.touches patterns
  | _ => false

mutual

theorem removes_standard (changed : ChangedFiles) : ∀ directive : Directive,
    directive.removes Registry.standardTags changed = .ok (directive.leaves.any (skips changed))
  | .indexSearch _ => by simp [removes, leaves, skips]
  | .skipUnlessChanged _ => by simp [removes, leaves, skips]
  | .anyOf members => by
    rw [removes, leaves]
    exact removesAny_standard changed members

theorem removesAny_standard (changed : ChangedFiles) : ∀ members : List Directive,
    removesAny Registry.standardTags changed members = .ok ((leavesOfAll members).any (skips changed))
  | [] => by simp [removesAny, leavesOfAll]
  | first :: rest => by
    rw [removesAny, if_pos (Registry.tag_standard first), removes_standard changed first, leavesOfAll,
      List.any_append]
    cases first.leaves.any (skips changed) with
    | true => rfl
    | false => exact removesAny_standard changed rest

end

theorem skips_iff {changed : ChangedFiles} {directive : Directive} :
    directive.skips changed = true ↔ changed.tracked = true ∧
      ∃ patterns, directive = .skipUnlessChanged patterns ∧
        ∀ pattern ∈ patterns, ∀ path ∈ changed.files,
          ChangedFiles.matchesPath pattern path = false := by
  cases directive with
  | indexSearch paths => simp [skips]
  | skipUnlessChanged patterns => simp [skips, ChangedFiles.touches]
  | anyOf members => simp [skips]

end Directive

theorem Strategy.shouldRemove_standard [Glob.Matcher] {registered : SortedSet String} {directive : Directive}
    {strategy : Strategy} (known : standard? registered directive.tag = some strategy)
    (task : Task) (context : StrategyContext) :
    strategy.shouldRemove task directive context =
      directive.removes registered context.params.changedFiles := by
  cases directive <;>
  · cases known
    simp only [indexSearch, skipUnlessChanged, anyOf, Directive.removes]

namespace Optimize

section Matcher

variable [Glob.Matcher]

variable {params : OptimizeParams} {input : TaskGraph} {label : String}

/-- The run may remove a task: it leaves the task free, tracks changed files, and the
directive of the task holds one that none of these matches. -/
def Skippable (params : OptimizeParams) (input : TaskGraph) (label : String) : Prop :=
  label ∉ params.doNotOptimize ∧ params.existingTasks.get? label = none ∧
    params.changedFiles.tracked = true ∧
    ∃ task directive patterns, input.get? label = some task ∧ task.optimization = some directive ∧
      .skipUnlessChanged patterns ∈ directive.leaves ∧
      ∀ pattern ∈ patterns, ∀ path ∈ params.changedFiles.files,
        ChangedFiles.matchesPath pattern path = false

omit [Glob.Matcher] in
theorem isFree_iff : params.isFree label = true ↔
    label ∉ params.doNotOptimize ∧ params.existingTasks.get? label = none := by
  simp [OptimizeParams.isFree, KeyMap.contains]

theorem removalVerdict_standard (label : String) :
    removalVerdict .standard params input label = .ok ((input.get? label).any fun task =>
      task.optimization.any fun directive =>
        directive.leaves.any (Directive.skips params.changedFiles)) := by
  unfold removalVerdict
  cases found : input.get? label with
  | none => rfl
  | some task =>
    simp only [Option.any_some]
    cases given : task.optimization with
    | none => rfl
    | some directive =>
      obtain ⟨strategy, find, known⟩ := Registry.find_standard directive
      simp only [find, Option.any_some]
      change (strategy.shouldRemove task directive ⟨params, .empty, .empty⟩).mapError _ = _
      rw [Strategy.shouldRemove_standard known, Directive.removes_standard]
      rfl

theorem removable_standard_iff :
    Removable .standard params input label ↔ Skippable params input label := by
  rw [Removable, Skippable, removalVerdict_standard, isFree_iff, Except.ok.injEq, and_assoc]
  refine and_congr_right fun _ => and_congr_right fun _ => ?_
  simp only [Option.any_eq_true, List.any_eq_true, Directive.skips_iff]
  constructor
  · rintro ⟨task, found, directive, given, _, leaf, tracked, patterns, rfl, unchanged⟩
    exact ⟨tracked, task, directive, patterns, found, given, leaf, unchanged⟩
  · rintro ⟨tracked, task, directive, patterns, found, given, leaf, unchanged⟩
    exact ⟨task, found, directive, given, _, leaf, tracked, patterns, rfl, unchanged⟩

theorem removals_standard_ok (params : OptimizeParams) (input : TaskGraph) :
    ∃ removed, removals .standard params input = .ok removed := by
  refine foldlM_total (fun removed label => ?_) _ _
  have answered : ∃ answer, shouldRemove .standard params input removed label = .ok answer := by
    by_cases h : params.isFree label = true ∧ ∀ d, input.graph.DependsOn d label → d ∈ removed
    · exact ⟨_, (shouldRemove_asked h.1 h.2).trans (removalVerdict_standard label)⟩
    · exact ⟨false, shouldRemove_not_asked h⟩
  obtain ⟨answer, answered⟩ := answered
  rw [removalStep, answered]
  cases answer with
  | true => exact ⟨removed.insert label, rfl⟩
  | false => exact ⟨removed, rfl⟩

/-- Nothing that the task or one that depends on it is for has changed. -/
def Skipped (params : OptimizeParams) (input : TaskGraph) (label : String) : Prop :=
  ∀ d, Relation.ReflTransGen input.graph.DependsOn d label → Skippable params input d

theorem mem_removals_standard (sound : input.Sound) {removed : SortedSet String}
    (removals : removals .standard params input = .ok removed) (label : String) :
    label ∈ removed ↔ Skipped params input label := by
  rw [mem_removals_iff sound.acyclic sound.ends removals]
  simp only [removable_standard_iff]
  constructor
  · rintro ⟨-, here, above⟩ d path
    rcases Relation.reflTransGen_iff_eq_or_transGen.mp path with rfl | path
    · exact here
    · exact above d path
  · intro all
    have here := all label .refl
    obtain ⟨-, -, -, task, _, _, found, -⟩ := here
    exact ⟨(sound.known label).mpr ⟨task, found⟩, all label .refl, fun d path => all d path.to_reflTransGen⟩

/-- A successful optimization with the standard strategies removes a task exactly if
the task and all that depend on it, directly or not, may be removed. So no task that is
kept or replaced depends on a removed one. -/
theorem optimize_removes_iff (reachable : input.Reachable) {ids : TaskIds} {index : Index}
    {out : OptimizedGraph}
    (ran : ((optimize .standard ids params input).run index .empty).1 = .ok out) :
    (∀ label, out.decisions.get? label = some .removed ↔
      ∀ d, Relation.ReflTransGen input.graph.DependsOn d label → Skippable params input d) ∧
    ∀ a b, input.graph.DependsOn a b → out.decisions.get? b = some .removed →
      out.decisions.get? a = some .removed := by
  have sound := reachable.sound
  obtain ⟨removed, replaced, removals, replacements, rfl⟩ := optimize_gives sound ⟨.empty, ran⟩
  have consistent := decisionOf_consistent sound removals replacements
  have removed_iff (label : String) :
      (settled ids input (decisionOf removed replaced)).decisions.get? label = some .removed ↔
        label ∈ removed :=
    (decisions_settled_iff sound consistent (by simp)).trans decisionOf_eq_removed
  refine ⟨fun label => (removed_iff label).trans (mem_removals_standard sound removals label), ?_⟩
  intro a b depends gone
  rw [removed_iff] at gone ⊢
  exact removals_closed sound removals depends gone

end Matcher

/-- Two tasks for the sources, the second of which tests what the first builds. -/
def buildAndTest : List Task :=
  [⟨"build", "run", .empty, .empty, some (.anyOf [.skipUnlessChanged ["src"]]), .alwaysOptimized, .null⟩,
    ⟨"test", "run", .empty, .ofList [("binary", "build")], some (.skipUnlessChanged ["src", "tests"]),
      .alwaysOptimized, .null⟩]

/-- A run for a change to the documentation. -/
def docsChanged : OptimizeParams := { OptimizeParams.empty with changedFiles := ⟨["docs/a.md"], true⟩ }

/-- Without a change to the sources the first task goes with the second. -/
theorem optimize_removes_build :
    ∃ (input : TaskGraph) (out : OptimizedGraph), input.Reachable ∧
      out.decisions.toList = [("build", .removed), ("test", .removed)] ∧
      ∀ d, Relation.ReflTransGen input.graph.DependsOn d "build" → Skippable docsChanged input d := by
  obtain ⟨input, built, h⟩ := exists_ok (x := TaskGraph.ofTasks buildAndTest)
    (p := fun input => ((optimize .standard (.sequential "t") docsChanged input).run
        (fun _ => .ok none) .empty).1.toOption.any fun out =>
      out.decisions.toList = [("build", .removed), ("test", .removed)])
    (by decide +kernel)
  obtain ⟨out, ran, h⟩ := exists_ok h
  have decisions := of_decide_eq_true h
  have reachable := TaskGraph.Reachable.built built
  obtain ⟨removes_iff, -⟩ := optimize_removes_iff reachable ran
  refine ⟨input, out, reachable, decisions, (removes_iff "build").mp ?_⟩
  exact KeyMap.mem_toList_iff.mp (by simp [decisions])

end Optimize

end TaskPlan
