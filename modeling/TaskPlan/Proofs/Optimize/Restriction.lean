import TaskPlan.Proofs.Optimize.Run

/-!
# Runs that may optimize less

A run that pins more labels and whose changes are more, or are not known, may optimize
less than another one that is else the same (`OptimizeParams.Restricts`). It removes
fewer tasks, and what it replaces the other run replaces in the same way or removes:
neither pass has this property alone, as a task that is no longer removed may be
replaced (`Replaced.of_restricts`).
-/

namespace TaskPlan

/-- `strict` pins what `params` pins and more, and tracks the changes of `params` and
more, or none; all else is the same. -/
structure OptimizeParams.Restricts (strict params : OptimizeParams) : Prop where
  deadline : strict.deadline = params.deadline
  existingTasks : strict.existingTasks = params.existingTasks
  settings : strict.params = params.params
  pinned : ∀ label ∈ params.doNotOptimize, label ∈ strict.doNotOptimize
  changed : strict.changedFiles.tracked = false ∨
    (strict.changedFiles.tracked = true ∧ params.changedFiles.tracked = true ∧
      ∀ path ∈ params.changedFiles.files, path ∈ strict.changedFiles.files)

namespace Optimize

section Matcher

variable [Glob.Matcher]

variable {params strict : OptimizeParams} {input : TaskGraph} {index : Index} {label : String}

theorem Skippable.of_restricts (restricts : strict.Restricts params)
    (skippable : Skippable strict input label) : Skippable params input label := by
  obtain ⟨free, unlisted, tracked, task, directive, patterns, present, given, leaf, unchanged⟩ :=
    skippable
  rcases restricts.changed with untracked | ⟨-, trackedToo, more⟩
  · rw [untracked] at tracked
    cases tracked
  · refine ⟨fun pinned => free (restricts.pinned label pinned), ?_, trackedToo, task, directive,
      patterns, present, given, leaf, fun pattern member path changed => ?_⟩
    · rw [← restricts.existingTasks]
      exact unlisted
    · exact unchanged pattern member path (more path changed)

theorem Skipped.of_restricts (restricts : strict.Restricts params)
    (skipped : Skipped strict input label) : Skipped params input label :=
  fun d path => (skipped d path).of_restricts restricts

/-- What the stricter run replaces, the other one removes or replaces by the same task. -/
theorem Replaced.of_restricts (sound : input.Sound) (restricts : strict.Restricts params)
    {id : String} (found : Replaced strict input index label id) :
    Skipped params input label ∨ Replaced params input index label id := by
  -- by induction along the dependencies: a dependency that the other run removes has no
  -- dependent that stays there, so that the searches are made with the same ids
  induction found with
  | listed known listed =>
    rw [restricts.existingTasks] at listed
    exact .inr (.listed known listed)
  | @found label id directive ids searchable _ first ih =>
    by_cases skipped : Skipped params input label
    · exact .inl skipped
    refine .inr (.found (?_ : Searchable params input label directive ids) ?_ ?_)
    · exact {
        stays := skipped
        allowed := fun pinned => searchable.allowed (restricts.pinned label pinned)
        unlisted := restricts.existingTasks ▸ searchable.unlisted
        given := searchable.given
        names := searchable.names }
    · intro name dependency id edge named
      rcases ih name dependency id edge named with gone | replaced
      · exact absurd (gone.dependent (depends_of_dependency sound edge)) skipped
      · exact replaced
    · rw [← restricts.deadline]
      exact first

/-- A run that may optimize less optimizes no more: it removes only what the other run
removes, replaces only what that removes or replaces by the same task, and so keeps
whatever that keeps. -/
theorem optimize_restricts (reachable : input.Reachable) (restricts : strict.Restricts params)
    {ids strictIds : TaskIds} {out strictOut : OptimizedGraph}
    (ran : ((optimize .standard ids params input).run index .empty).1 = .ok out)
    (strictRan : ((optimize .standard strictIds strict input).run index .empty).1 = .ok strictOut) :
    (∀ label, strictOut.decisions.get? label = some .removed →
      out.decisions.get? label = some .removed) ∧
    (∀ label id, strictOut.decisions.get? label = some (.replaced id) →
      out.decisions.get? label = some .removed ∨ out.decisions.get? label = some (.replaced id)) ∧
    ∀ label, out.decisions.get? label = some .keep →
      strictOut.decisions.get? label = some .keep := by
  obtain ⟨removed_iff, replaced_iff, decided_iff⟩ := optimize_decided reachable.sound ran
  obtain ⟨strictRemoved_iff, strictReplaced_iff, strictDecided_iff⟩ :=
    optimize_decided reachable.sound strictRan
  have removes (label : String) (gone : strictOut.decisions.get? label = some .removed) :
      out.decisions.get? label = some .removed := by
    rw [removed_iff]
    exact ((strictRemoved_iff label).mp gone).of_restricts restricts
  have replaces (label id : String) (taken : strictOut.decisions.get? label = some (.replaced id)) :
      out.decisions.get? label = some .removed ∨ out.decisions.get? label = some (.replaced id) := by
    rw [removed_iff, replaced_iff]
    exact ((strictReplaced_iff label id).mp taken).of_restricts reachable.sound restricts
  refine ⟨removes, replaces, fun label kept => ?_⟩
  obtain ⟨decision, decided⟩ := (strictDecided_iff label).mp ((decided_iff label).mpr ⟨_, kept⟩)
  cases decision with
  | keep => exact decided
  | removed => cases kept.symm.trans (removes label decided)
  | replaced id =>
    rcases replaces label id decided with gone | taken
    · cases kept.symm.trans gone
    · cases kept.symm.trans taken

end Matcher

/-- A task for an image that is skipped or found, and a task that uses it. -/
def skippedOrFound : List Task :=
  [⟨"image", "docker", .empty, .empty,
      some (.anyOf [.skipUnlessChanged ["images"], .indexSearch ["images.latest"]]),
      .alwaysOptimized, .null⟩,
    ⟨"use", "run", .empty, .ofList [("base", "image")], some (.skipUnlessChanged ["src"]),
      .alwaysOptimized, .null⟩]

/-- The run for a change to the documentation that has to keep one task. -/
def usePinned : OptimizeParams := { docsChanged with doNotOptimize := .ofList ["use"] }

/-- Once its dependent is pinned the image is no longer removed and can be replaced. -/
theorem optimize_restricts_pinned :
    ∃ (input : TaskGraph) (out strictOut : OptimizedGraph), input.Reachable ∧
      usePinned.Restricts docsChanged ∧
      out.decisions.toList = [("image", .removed), ("use", .removed)] ∧
      strictOut.decisions.toList = [("image", .replaced "T"), ("use", .keep)] ∧
      (out.decisions.get? "image" = some .removed ∨
        out.decisions.get? "image" = some (.replaced "T")) := by
  obtain ⟨input, built, h⟩ := exists_ok (x := TaskGraph.ofTasks skippedOrFound)
    (p := fun input =>
      (((optimize .standard (.sequential "t") docsChanged input).run TaskGraph.imageIndex .empty).1.toOption.any
        fun out => out.decisions.toList = [("image", .removed), ("use", .removed)]) &&
      (((optimize .standard (.sequential "t") usePinned input).run TaskGraph.imageIndex .empty).1.toOption.any
        fun out => out.decisions.toList = [("image", .replaced "T"), ("use", .keep)]))
    (by decide +kernel)
  obtain ⟨wide, narrow⟩ := Bool.and_eq_true_iff.mp h
  obtain ⟨out, ran, decided⟩ := exists_ok wide
  obtain ⟨strictOut, strictRan, strictDecided⟩ := exists_ok narrow
  have decided := of_decide_eq_true decided
  have strictDecided := of_decide_eq_true strictDecided
  have reachable := TaskGraph.Reachable.built built
  have restricts : usePinned.Restricts docsChanged :=
    ⟨rfl, rfl, rfl, fun _ member => absurd member (SortedSet.not_mem_empty _),
      .inr ⟨rfl, rfl, fun _ member => member⟩⟩
  refine ⟨input, out, strictOut, reachable, restricts, decided, strictDecided, ?_⟩
  obtain ⟨-, replaces, -⟩ := optimize_restricts reachable restricts ran strictRan
  exact replaces "image" "T" (KeyMap.mem_toList_iff.mp (by simp [strictDecided]))

end Optimize

end TaskPlan
