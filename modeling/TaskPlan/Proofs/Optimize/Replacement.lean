import TaskPlan.Optimize.Replacement
import TaskPlan.Proofs.Index.Lookup
import TaskPlan.Proofs.TaskGraph.Sound

/-!
# What is replaced

What one layer of the replacement does to the ids found before it. Whatever the
strategies answer, only tasks of the graph that have not been removed are replaced
(`replacements_within`).
-/

namespace TaskPlan

namespace Optimize

variable {registry : Registry} {params : OptimizeParams} {input : TaskGraph}
  {removed : SortedSet String} {replaced next : KeyMap String} {label : String}

theorem candidate?_eq :
    candidate? params input removed replaced label =
      if label ∈ removed ∨ params.isFree label = false then none
      else (input.get? label).bind fun task => task.optimization.bind fun directive =>
        (finalize removed replaced (input.dependencies label).toList).map fun found =>
          ⟨task, directive, ⟨params, .ofList found.1, .ofList found.2⟩⟩ := by
  unfold candidate?
  by_cases gone : label ∈ removed
  · simp [gone]
  · cases free : params.isFree label with
    | false => simp
    | true =>
      simp only [gone, decide_false, Bool.not_true, Bool.or_self, Bool.false_eq_true, if_false,
        reduceCtorEq, or_self, Option.map_eq_bind]
      rfl

theorem candidate?_some (sound : input.Sound) {candidate : Candidate}
    (h : candidate? params input removed replaced label = some candidate) :
    label ∉ removed ∧ params.isFree label = true ∧ input.get? label = some candidate.task ∧
      candidate.task.label = label ∧ candidate.task.optimization = some candidate.directive := by
  rw [candidate?_eq] at h
  split at h
  · cases h
  rename_i open'
  obtain ⟨task, found, h⟩ := Option.bind_eq_some_iff.mp h
  obtain ⟨directive, given, h⟩ := Option.bind_eq_some_iff.mp h
  obtain ⟨_, -, rfl⟩ := Option.map_eq_some_iff.mp h
  rw [not_or, Bool.not_eq_false] at open'
  exact ⟨open'.1, open'.2, found, sound.labelled label task found, given⟩

theorem get?_replaceExisting (layer : List String) (key : String) :
    (replaceExisting params removed layer replaced).get? key =
      if key ∈ layer ∧ key ∉ removed then
        (params.existingTasks.get? key).or (replaced.get? key)
      else replaced.get? key := by
  unfold replaceExisting
  induction layer generalizing replaced with
  | nil => simp
  | cons label rest ih =>
    rw [List.foldl_cons, ih]
    by_cases gone : label ∈ removed
    · by_cases same : key = label
      · simp [gone, same]
      · simp [gone, same]
    · cases existing : params.existingTasks.get? label with
      | none =>
        by_cases same : key = label
        · simp [gone, same, existing]
        · simp [gone, same]
      | some taskId =>
        by_cases same : key = label
        · simp [gone, same, existing, KeyMap.get?_insert]
        · simp [gone, same, Ne.symm same, KeyMap.get?_insert]

theorem replaceCandidate_gives {index : Index} {candidate : Candidate}
    (h : Lookup.Gives index (replaceCandidate registry replaced candidate) next) :
    next = replaced ∨ ∃ taskId, next = replaced.insert candidate.task.label taskId := by
  obtain ⟨strategy, -, h⟩ := Lookup.gives_bind h
  obtain ⟨found, -, h⟩ := Lookup.gives_bind h
  cases found with
  | none => exact .inl (Lookup.gives_pure h)
  | some taskId => exact .inr ⟨taskId, Lookup.gives_pure h⟩

/-- Only tasks of the graph that have not been removed are replaced. -/
def Within (input : TaskGraph) (removed : SortedSet String) (replaced : KeyMap String) : Prop :=
  ∀ label taskId, replaced.get? label = some taskId →
    label ∈ input.graph.nodes ∧ label ∉ removed

theorem Within.insert (within : Within input removed replaced) (known : label ∈ input.graph.nodes)
    (stays : label ∉ removed) (taskId : String) :
    Within input removed (replaced.insert label taskId) := by
  intro key id found
  rw [KeyMap.get?_insert] at found
  split at found
  · rename_i same
    exact same ▸ ⟨known, stays⟩
  · exact within key id found

theorem replaceLayer_within {index : Index} {layer : List String} (sound : input.Sound)
    (known : ∀ label ∈ layer, label ∈ input.graph.nodes) (within : Within input removed replaced)
    (h : Lookup.Gives index (replaceLayer registry params input removed replaced layer) next) :
    Within input removed next := by
  have existing : Within input removed (replaceExisting params removed layer replaced) := by
    intro key id found
    rw [get?_replaceExisting] at found
    split at found
    · rename_i open'
      exact ⟨known key open'.1, open'.2⟩
    · exact within key id found
  obtain ⟨paths, -, h⟩ := Lookup.gives_bind h
  obtain ⟨_, -, h⟩ := Lookup.gives_bind h
  refine Lookup.foldlM_gives_keeps (fun _ replaced => Within input removed replaced)
    ?_ existing h
  intro done candidate rest current after split within given
  rcases replaceCandidate_gives given with rfl | ⟨taskId, rfl⟩
  · exact within
  · have member : candidate ∈ layer.filterMap
        (candidate? params input removed (replaceExisting params removed layer replaced)) := by
      rw [split]
      exact List.mem_append_right _ List.mem_cons_self
    obtain ⟨label, inLayer, eligible⟩ := List.mem_filterMap.mp member
    obtain ⟨stays, -, -, same, -⟩ := candidate?_some sound eligible
    rw [same]
    exact within.insert (known label inLayer) stays taskId

theorem replacements_within {index : Index} (sound : input.Sound)
    (h : Lookup.Gives index (replacements registry params input removed) replaced) :
    Within input removed replaced := by
  refine Lookup.foldlM_gives_keeps (fun _ replaced => Within input removed replaced)
    ?_ ?_ h
  · intro done layer rest replaced next split within given
    exact replaceLayer_within sound
      (Graph.mem_nodes_of_mem_layer sound.acyclic sound.ends split) within given
  · intro label taskId found
    cases found

end Optimize

end TaskPlan
