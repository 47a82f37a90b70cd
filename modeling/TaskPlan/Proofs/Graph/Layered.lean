import TaskPlan.Proofs.Graph.Dependency

/-!
# Labels in layers

`Layered` takes from some labels, layer after layer, those that depend on none of the
rest. On an acyclic graph some label is always ready, so that all labels are used up
(`exists_layered`). Every label then stands in one layer (`Layered.perm`), and what it
depends on in an earlier one (`Layered.dependency_earlier`).
-/

namespace TaskPlan

namespace Graph

variable {g : Graph}

/-- The labels of `remaining` that depend on none of them. -/
def ready (g : Graph) (remaining : List String) : List String :=
  remaining.filter fun label => (g.dependencies label).toList.all fun d => !remaining.contains d

/-- The labels that remain after those that are ready. -/
def others (g : Graph) (remaining : List String) : List String :=
  remaining.filter fun label => !(g.ready remaining).contains label

theorem mem_ready {remaining : List String} {label : String} :
    label ∈ g.ready remaining ↔
      label ∈ remaining ∧ ∀ d, g.DependsOn label d → d ∉ remaining := by
  simp only [ready, List.mem_filter, List.all_eq_true, SortedSet.mem_toList, mem_dependencies_iff,
    Bool.not_eq_true', List.contains_eq_mem, decide_eq_false_iff_not]

theorem ready_ne_nil (acyclic : g.Acyclic) (ends : g.EndsKnown) {remaining : List String}
    (some : remaining ≠ []) : g.ready remaining ≠ [] := by
  obtain ⟨first, member⟩ := List.exists_mem_of_ne_nil remaining some
  obtain ⟨label, present, least⟩ :=
    (acyclic.dependencies_wellFounded ends).has_min {label | label ∈ remaining} ⟨first, member⟩
  refine List.ne_nil_of_mem (mem_ready.mpr ⟨present, ?_⟩)
  intro d depends inside
  exact least d inside depends

theorem mem_others {remaining : List String} {label : String} :
    label ∈ g.others remaining ↔ label ∈ remaining ∧ label ∉ g.ready remaining := by
  simp [others]

/-- Layers that take from the remaining labels those that are ready, until none is left. -/
inductive Layered (g : Graph) : (remaining : List String) → List (List String) → Prop where
  | nil : Layered g [] []
  | cons {remaining : List String} {rest : List (List String)} (some : g.ready remaining ≠ [])
      (later : Layered g (g.others remaining) rest) : Layered g remaining (g.ready remaining :: rest)

theorem length_others_lt {remaining : List String} (some : g.ready remaining ≠ []) :
    (g.others remaining).length < remaining.length := by
  obtain ⟨label, member⟩ := List.exists_mem_of_ne_nil _ some
  refine List.length_filter_lt_length_iff_exists.mpr ⟨label, (mem_ready.mp member).1, ?_⟩
  simp [member]

theorem exists_layered (acyclic : g.Acyclic) (ends : g.EndsKnown) (remaining : List String) :
    ∃ layers, Layered g remaining layers := by
  by_cases none : remaining = []
  · exact ⟨[], none ▸ .nil⟩
  · have some := ready_ne_nil acyclic ends none
    obtain ⟨rest, later⟩ := exists_layered acyclic ends (g.others remaining)
    exact ⟨_, .cons some later⟩
termination_by remaining.length
decreasing_by exact length_others_lt some

theorem Layered.perm {remaining : List String} {layers : List (List String)}
    (layered : Layered g remaining layers) : layers.flatten.Perm remaining := by
  induction layered with
  | nil => exact .nil
  | @cons remaining rest _ _ ih =>
    have unready : g.others remaining =
        remaining.filter fun label =>
          !((g.dependencies label).toList.all fun d => !remaining.contains d) := by
      apply List.filter_congr
      intro label member
      congr 1
      rw [Bool.eq_iff_iff]
      simp [ready, member]
    rw [unready] at ih
    rw [List.flatten_cons]
    exact (ih.append_left _).trans (List.filter_append_perm _ remaining)

theorem Layered.length_le {remaining : List String} {layers : List (List String)}
    (layered : Layered g remaining layers) : layers.length ≤ remaining.length := by
  induction layered with
  | nil => exact Nat.le_refl 0
  | cons some _ ih =>
    have fewer := length_others_lt some
    rw [List.length_cons]
    omega

/-- No label depends on one of its own layer or of a later one. -/
theorem Layered.pairwise {remaining : List String} {layers : List (List String)}
    (layered : Layered g remaining layers) :
    layers.flatten.Pairwise fun a b => ¬ g.DependsOn a b := by
  induction layered with
  | nil => exact .nil
  | @cons remaining rest _ later ih =>
    rw [List.flatten_cons, List.pairwise_append]
    refine ⟨?_, ih, ?_⟩
    · apply List.pairwise_of_forall_mem_list
      intro a first b second depends
      exact (mem_ready.mp first).2 b depends (mem_ready.mp second).1
    · intro a first b second depends
      have inside := (mem_others.mp (later.perm.mem_iff.mp second)).1
      exact (mem_ready.mp first).2 b depends inside

theorem Layered.dependency_earlier {remaining : List String} {layers : List (List String)}
    (layered : Layered g remaining layers) {before after : List (List String)} {layer : List String}
    (split : layers = before ++ layer :: after) {label d : String} (member : label ∈ layer)
    (depends : g.DependsOn label d) (inside : d ∈ remaining) : d ∈ before.flatten := by
  induction layered generalizing before with
  | nil => simp at split
  | @cons remaining rest _ _ ih =>
    cases before with
    | nil =>
      obtain ⟨same, -⟩ := List.cons.inj split
      rw [← same] at member
      exact absurd inside ((mem_ready.mp member).2 d depends)
    | cons first before =>
      obtain ⟨same, split⟩ := List.cons.inj split
      rw [List.flatten_cons, List.mem_append, ← same]
      by_cases now : d ∈ g.ready remaining
      · exact .inl now
      · exact .inr (ih split (mem_others.mpr ⟨inside, now⟩))

end Graph

end TaskPlan
