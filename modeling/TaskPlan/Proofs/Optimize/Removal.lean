import TaskPlan.Optimize.Removal
import TaskPlan.Proofs.TaskGraph.Sound

/-!
# What is removed

The sweep from dependents to dependencies decides each task from what has been
removed before it. As all dependents of a task come before it, the set it ends with
is fixed by one equation (`mem_removals`): a task is removed if the run leaves it
free, its strategy says so and all its dependents are removed. Unfolded along the
dependents this is a condition on the task and on all that depend on it, directly or
not (`mem_removals_iff`).
-/

namespace TaskPlan

namespace Optimize

/-- What the strategy of a task answers, whatever its dependents. -/
def removalVerdict (registry : Registry) (params : OptimizeParams) (input : TaskGraph)
    (label : String) : Result Bool :=
  match input.get? label with
  | none => .ok false
  | some task =>
    match task.optimization with
    | none => .ok false
    | some directive => do
      let strategy ← registry.find directive.tag
      (strategy.shouldRemove task directive ⟨params, .empty, .empty⟩).mapError (strategyError task)

/-- The run leaves the task free and its strategy would remove it. -/
def Removable (registry : Registry) (params : OptimizeParams) (input : TaskGraph) (label : String) :
    Prop :=
  params.isFree label = true ∧ removalVerdict registry params input label = .ok true

variable {registry : Registry} {params : OptimizeParams} {input : TaskGraph}
  {removed next : SortedSet String} {label : String}

theorem all_dependents_removed :
    ((input.graph.dependents label).toList.all fun d => decide (d ∈ removed)) = true ↔
      ∀ d, input.graph.DependsOn d label → d ∈ removed := by
  simp only [List.all_eq_true, decide_eq_true_eq, SortedSet.mem_toList, Graph.mem_dependents_iff]

theorem shouldRemove_asked (free : params.isFree label = true)
    (all : ∀ d, input.graph.DependsOn d label → d ∈ removed) :
    shouldRemove registry params input removed label =
      removalVerdict registry params input label := by
  unfold shouldRemove
  rw [free, all_dependents_removed.mpr all]
  rfl

theorem shouldRemove_not_asked
    (h : ¬ (params.isFree label = true ∧ ∀ d, input.graph.DependsOn d label → d ∈ removed)) :
    shouldRemove registry params input removed label = .ok false := by
  unfold shouldRemove
  by_cases free : params.isFree label = true
  · have some : ((input.graph.dependents label).toList.all fun d => decide (d ∈ removed)) = false :=
      Bool.eq_false_iff.mpr fun all => h ⟨free, all_dependents_removed.mp all⟩
    rw [free, some]
    rfl
  · rw [Bool.eq_false_iff.mpr free]
    rfl

theorem removalStep_ok (stepped : removalStep registry params input removed label = .ok next) :
    ∀ x, x ∈ next ↔ x ∈ removed ∨ x = label ∧ Removable registry params input label ∧
      ∀ d, input.graph.DependsOn d label → d ∈ removed := by
  obtain ⟨answer, asked, stepped⟩ := bind_ok_iff.mp stepped
  intro x
  by_cases h : params.isFree label = true ∧ ∀ d, input.graph.DependsOn d label → d ∈ removed
  · rw [shouldRemove_asked h.1 h.2] at asked
    cases answer with
    | true =>
      cases stepped
      rw [SortedSet.mem_insert, or_comm]
      exact or_congr_right ⟨fun same => ⟨same, ⟨h.1, asked⟩, h.2⟩, And.left⟩
    | false =>
      cases stepped
      simp [Removable, asked]
  · rw [shouldRemove_not_asked h] at asked
    cases asked
    cases stepped
    refine ⟨.inl, fun member => member.resolve_right ?_⟩
    rintro ⟨-, removable, all⟩
    exact h ⟨removable.1, all⟩

/-- The removed set after a part of the sweep. -/
structure Swept (registry : Registry) (params : OptimizeParams) (input : TaskGraph)
    (done : List String) (removed : SortedSet String) : Prop where
  within : ∀ x ∈ removed, x ∈ done
  decided : ∀ x ∈ done, x ∈ removed ↔ Removable registry params input x ∧
    ∀ d, input.graph.DependsOn d x → d ∈ removed

theorem Swept.step (acyclic : input.graph.Acyclic) (ends : input.graph.EndsKnown)
    {done rest : List String} (split : input.graph.preorder = done ++ label :: rest)
    (swept : Swept registry params input done removed)
    (stepped : removalStep registry params input removed label = .ok next) :
    Swept registry params input (done ++ [label]) next := by
  have mem_next := removalStep_ok stepped
  have distinct : input.graph.preorder.Nodup :=
    List.nodup_reverse.mpr (Graph.nodup_postorder acyclic ends)
  rw [split] at distinct
  have new : label ∉ done := fun old =>
    List.disjoint_of_nodup_append distinct old List.mem_cons_self
  -- the sweep has come by the dependents of a label before it comes by the label
  have dependents_done : ∀ x ∈ done ++ [label], ∀ d, input.graph.DependsOn d x → d ∈ done := by
    intro x member d depends
    rcases List.mem_append.mp member with old | now
    · obtain ⟨before, after, same⟩ := List.append_of_mem old
      rw [same, List.append_assoc, List.cons_append] at split
      rw [same]
      exact List.mem_append_left _ (Graph.dependent_before acyclic ends split depends)
    · rw [List.mem_singleton.mp now] at depends
      exact Graph.dependent_before acyclic ends split depends
  have settled : ∀ x ∈ done, x ∈ next ↔ x ∈ removed := by
    intro x old
    rw [mem_next]
    refine ⟨fun h => h.resolve_right ?_, .inl⟩
    rintro ⟨rfl, -⟩
    exact new old
  have dependents_settled : ∀ x ∈ done ++ [label],
      (∀ d, input.graph.DependsOn d x → d ∈ next) ↔ ∀ d, input.graph.DependsOn d x → d ∈ removed :=
    fun x member => forall₂_congr fun d depends =>
      settled d (dependents_done x member d depends)
  refine ⟨?_, ?_⟩
  · intro x member
    rcases (mem_next x).mp member with old | ⟨rfl, -⟩
    · exact List.mem_append_left _ (swept.within x old)
    · exact List.mem_append_right _ List.mem_cons_self
  · intro x member
    rw [dependents_settled x member]
    rcases List.mem_append.mp member with old | now
    · rw [settled x old]
      exact swept.decided x old
    · obtain rfl := List.mem_singleton.mp now
      rw [mem_next]
      simp only [true_and]
      refine ⟨fun h => h.resolve_left fun old => new (swept.within x old), .inr⟩

theorem removals_swept (acyclic : input.graph.Acyclic) (ends : input.graph.EndsKnown)
    (h : removals registry params input = .ok removed) :
    Swept registry params input input.graph.preorder removed := by
  refine foldlM_ok_keeps (Swept registry params input) ?_ ?_ h
  · intro done label rest removed next split swept stepped
    exact swept.step acyclic ends split stepped
  · exact ⟨fun x member => absurd member (SortedSet.not_mem_empty x), by simp⟩

/-- The removed tasks are the removable ones all of whose dependents are removed. -/
theorem mem_removals (acyclic : input.graph.Acyclic) (ends : input.graph.EndsKnown)
    (h : removals registry params input = .ok removed) (label : String) :
    label ∈ removed ↔ label ∈ input.graph.nodes ∧ Removable registry params input label ∧
      ∀ d, input.graph.DependsOn d label → d ∈ removed := by
  have swept := removals_swept acyclic ends h
  have mem_preorder : label ∈ input.graph.preorder ↔ label ∈ input.graph.nodes := by
    rw [Graph.preorder, List.mem_reverse, Graph.mem_postorder acyclic ends]
  constructor
  · intro member
    have inside := swept.within label member
    exact ⟨mem_preorder.mp inside, (swept.decided label inside).mp member⟩
  · rintro ⟨known, decided⟩
    exact (swept.decided label (mem_preorder.mpr known)).mpr decided

theorem removals_known (sound : input.Sound) (h : removals registry params input = .ok removed) :
    ∀ label ∈ removed, label ∈ input.graph.nodes :=
  fun label member => ((mem_removals sound.acyclic sound.ends h label).mp member).1

theorem removals_closed (sound : input.Sound) (h : removals registry params input = .ok removed)
    {d : String} (depends : input.graph.DependsOn d label) (gone : label ∈ removed) : d ∈ removed :=
  ((mem_removals sound.acyclic sound.ends h label).mp gone).2.2 d depends

/-- The removed tasks are those that are removable like all that depend on them. -/
theorem mem_removals_iff (acyclic : input.graph.Acyclic) (ends : input.graph.EndsKnown)
    (h : removals registry params input = .ok removed) (label : String) :
    label ∈ removed ↔ label ∈ input.graph.nodes ∧ Removable registry params input label ∧
      ∀ d, Relation.TransGen input.graph.DependsOn d label → Removable registry params input d := by
  have equation := mem_removals acyclic ends h
  constructor
  · intro member
    obtain ⟨known, removable, -⟩ := (equation label).mp member
    refine ⟨known, removable, fun d path => ?_⟩
    have gone : d ∈ removed := by
      induction path using Relation.TransGen.head_induction_on with
      | single depends => exact ((equation label).mp member).2.2 _ depends
      | head depends _ ih => exact ((equation _).mp ih).2.2 _ depends
    exact ((equation d).mp gone).2.1
  · induction label using (acyclic.dependents_wellFounded ends).induction with
    | _ label ih =>
      rintro ⟨known, removable, all⟩
      refine (equation label).mpr ⟨known, removable, fun d depends => ?_⟩
      exact ih d depends ⟨(depends.known ends).1, all d (.single depends), fun x path =>
        all x (path.tail depends)⟩

end Optimize

end TaskPlan
