import TaskPlan.Proofs.Optimize.Rules

/-!
# Runs with the standard strategies

A run either decides all tasks as the rules say, or some search fails
(`optimize_ends`). So the decisions of a successful run can be read off the rules
(`optimize_decided`), and a search is made with the ids of the replaced dependencies
(`Decides.searched_of_replaced`).
-/

namespace TaskPlan

namespace Optimize

variable [Glob.Matcher]

variable {params : OptimizeParams} {input : TaskGraph} {index : Index} {removed : SortedSet String}
  {replaced : KeyMap String} {ids : TaskIds} {label : String}

/-- The removed and the replaced tasks are those of the rules, and no search fails. -/
structure Decides (params : OptimizeParams) (input : TaskGraph) (index : Index)
    (removed : SortedSet String) (replaced : KeyMap String) : Prop where
  removed_iff : ∀ label, label ∈ removed ↔ Skipped params input label
  replaced_iff : ∀ label id, replaced.get? label = some id ↔ Replaced params input index label id
  searched : ∀ label message, ¬ Fails params input index label message

theorem Skipped.known (sound : input.Sound) (skipped : Skipped params input label) :
    label ∈ input.graph.nodes := by
  obtain ⟨-, -, -, task, _, _, present, -⟩ := skipped label .refl
  exact (sound.known label).mpr ⟨task, present⟩

theorem Replaced.stays {id : String} (found : Replaced params input index label id) :
    ¬ Skipped params input label := by
  cases found with
  | listed _ listed =>
    intro skipped
    obtain ⟨-, unlisted, -⟩ := skipped label .refl
    rw [unlisted] at listed
    cases listed
  | found searchable _ _ => exact searchable.stays

theorem Filled.decides (sound : input.Sound)
    (removed_iff : ∀ x, x ∈ removed ↔ Skipped params input x)
    (filled : Filled params input index input.graph.postorder [] replaced) :
    Decides params input index removed replaced where
  removed_iff := removed_iff
  replaced_iff label id := by
    rw [filled.ids, sound.mem_postorder]
    simp only [List.not_mem_nil, false_and, or_false]
    exact and_iff_right_of_imp fun found => found.known sound
  searched label message failed := by
    obtain ⟨directive, found, searched, stopped⟩ := failed
    have known := sound.mem_postorder.mpr (searched.toSearchable.known sound)
    exact filled.searched label known message ⟨directive, found, searched, stopped⟩

/-- A run decides all tasks as the rules say, or some search fails. -/
theorem optimize_ends (sound : input.Sound) (ids : TaskIds) (params : OptimizeParams)
    (index : Index) :
    (∃ removed replaced, Decides params input index removed replaced ∧
      ((optimize .standard ids params input).run index .empty).1 =
        .ok (settled ids input (decisionOf removed replaced))) ∨
    ((∃ fault, ((optimize .standard ids params input).run index .empty).1 = .error fault) ∧
      ∃ label message, Fails params input index label message) := by
  obtain ⟨removed, removals⟩ := removals_standard_ok params input
  have removed_iff := mem_removals_standard sound removals
  obtain ⟨fills, stops⟩ := fillLayers_filled index sound removed_iff
  obtain ⟨succeeds, fails⟩ := optimize_yields ids index sound removals
  have fresh := Cache.empty_faithful index
  cases pass : input.graph.layers.foldlM (fillLayer index params input removed) .empty with
  | ok replaced =>
    have decides := (fills replaced pass).decides sound removed_iff
    exact .inl ⟨removed, replaced, decides, (succeeds replaced pass .empty fresh).1⟩
  | error fault =>
    obtain ⟨_, label, _, _, message, -, -, failed, -⟩ := stops fault pass
    exact .inr ⟨⟨fault, (fails fault pass .empty fresh).1⟩, label, message, failed⟩

theorem optimize_decides (sound : input.Sound) {out : OptimizedGraph}
    (ran : ((optimize .standard ids params input).run index .empty).1 = .ok out) :
    ∃ removed replaced, Decides params input index removed replaced ∧
      out = settled ids input (decisionOf removed replaced) := by
  rcases optimize_ends sound ids params index with ⟨removed, replaced, decides, ended⟩ | ⟨⟨_, ended⟩, -⟩
  · cases ran.symm.trans ended
    exact ⟨removed, replaced, decides, rfl⟩
  · cases ran.symm.trans ended

namespace Decides

variable (sound : input.Sound) (decides : Decides params input index removed replaced)
include sound decides

theorem within : Within input removed replaced := by
  intro label id found
  have found := (decides.replaced_iff label id).mp found
  exact ⟨found.known sound, fun gone => found.stays ((decides.removed_iff label).mp gone)⟩

theorem consistent : Consistent input (decisionOf removed replaced) where
  within label unknown := by
    refine decisionOf_of_absent (fun gone => ?_) (Option.eq_none_iff_forall_ne_some.mpr fun id found => ?_)
    · exact unknown (((decides.removed_iff label).mp gone).known sound)
    · exact unknown (decides.within sound label id found).1
  closed a b depends gone := by
    rw [decisionOf_eq_removed, decides.removed_iff] at gone ⊢
    exact gone.dependent depends

/-- The index is searched for a task that stays once all its dependencies are replaced. -/
theorem searched_of_replaced {directive : Directive} (stays : ¬ Skipped params input label)
    (allowed : label ∉ params.doNotOptimize) (unlisted : params.existingTasks.get? label = none)
    (given : ∃ task, input.get? label = some task ∧ task.optimization = some directive)
    (all : ∀ dependency, input.graph.DependsOn label dependency →
      ∃ id, replaced.get? dependency = some id) :
    Searched params input index label directive (knownIds input replaced label) where
  stays := stays
  allowed := allowed
  unlisted := unlisted
  given := given
  names := keys_knownIds fun entry member =>
    all entry.2 (depends_of_dependency sound (KeyMap.mem_toList_iff.mp member))
  replaced name dependency id edge named := by
    rw [get?_knownIds, edge, Option.bind_some] at named
    exact (decides.replaced_iff dependency id).mp named

end Decides

/-- A successful run decides the tasks of the graph: the skipped ones are removed, and
those that the rules replace are replaced. -/
theorem optimize_decided (sound : input.Sound) {out : OptimizedGraph}
    (ran : ((optimize .standard ids params input).run index .empty).1 = .ok out) :
    (∀ label, out.decisions.get? label = some .removed ↔ Skipped params input label) ∧
    (∀ label id, out.decisions.get? label = some (.replaced id) ↔
      Replaced params input index label id) ∧
    ∀ label, label ∈ input.graph.nodes ↔ ∃ decision, out.decisions.get? label = some decision := by
  obtain ⟨removed, replaced, decides, rfl⟩ := optimize_decides sound ran
  have consistent := decides.consistent sound
  refine ⟨fun label => ?_, fun label id => ?_, fun label => ?_⟩
  · rw [decisions_settled_iff sound consistent (by simp), decisionOf_eq_removed, decides.removed_iff]
  · rw [decisions_settled_iff sound consistent (by simp), decisionOf_eq_replaced (decides.within sound),
      decides.replaced_iff]
  · rw [get?_decisions_settled sound]
    simp

end Optimize

end TaskPlan
