import TaskPlan.Proofs.Graph.Layered

/-!
# Counting down

While layers are built, each remaining label waits for its dependencies that remain
(`Counts`). Counting down the dependents of a layer keeps this: no label is counted down
that waits for none, and those that are ready next are those that depend on no remaining
one (`finish_counts`). So the rounds give the layers of the remaining labels, and they
need as many rounds as there are layers (`layersFrom_counts`).
-/

namespace TaskPlan

namespace Graph

variable {g : Graph} {remaining : List String} {waiting : KeyMap Nat}

/-! ### Counts -/

/-- How many dependencies of a label remain. -/
def unmet (g : Graph) (remaining : List String) (label : String) : Nat :=
  (g.dependencies label).toList.countP fun d => decide (d ∈ remaining)

theorem unmet_eq_zero_iff {label : String} :
    g.unmet remaining label = 0 ↔ ∀ d, g.DependsOn label d → d ∉ remaining := by
  simp only [unmet, List.countP_eq_zero, decide_eq_true_eq, SortedSet.mem_toList, mem_dependencies_iff]

/-- The labels that remain after one of them. -/
def without (remaining : List String) (label : String) : List String :=
  remaining.filter fun other => other != label

theorem mem_without {label other : String} :
    other ∈ without remaining label ↔ other ∈ remaining ∧ other ≠ label := by
  simp [without]

theorem unmet_of_depends {label d : String} (depends : g.DependsOn label d) (inside : d ∈ remaining) :
    g.unmet remaining label = g.unmet (without remaining d) label + 1 := by
  have member : d ∈ (g.dependencies label).toList.filter fun x => decide (x ∈ remaining) := by
    rw [List.mem_filter]
    exact ⟨mem_dependencies_iff.mpr depends, decide_eq_true inside⟩
  have distinct := ((g.dependencies label).nodup_toList.filter fun x => decide (x ∈ remaining))
  have fewer : ((g.dependencies label).toList.filter fun x => decide (x ∈ without remaining d)) =
      ((g.dependencies label).toList.filter fun x => decide (x ∈ remaining)).erase d := by
    rw [distinct.erase_eq_filter, List.filter_filter]
    refine List.filter_congr fun x _ => Bool.eq_iff_iff.mpr ?_
    simp [mem_without, and_comm]
  rw [unmet, unmet, List.countP_eq_length_filter, List.countP_eq_length_filter, fewer]
  exact (List.length_erase_add_one member).symm

theorem unmet_of_not_depends {label d : String} (free : ¬ g.DependsOn label d) :
    g.unmet (without remaining d) label = g.unmet remaining label := by
  refine List.countP_congr fun x member => ?_
  have other : x ≠ d := fun same => free (same ▸ mem_dependencies_iff.mp member)
  simp [mem_without, other]

/-- Each remaining label waits for its dependencies that remain. -/
def Counts (g : Graph) (remaining : List String) (waiting : KeyMap Nat) : Prop :=
  ∀ label, waiting.get? label = if label ∈ remaining then some (g.unmet remaining label) else none

theorem waiting_counts (ends : g.EndsKnown) : g.Counts g.nodes.toList g.waiting := by
  intro label
  rw [Graph.waiting, KeyMap.get?_ofList_labelled]
  have all : g.unmet g.nodes.toList label = (g.dependencies label).size := by
    refine List.countP_eq_length.mpr fun d member => decide_eq_true ?_
    exact ((mem_dependencies_iff.mp member).known ends).2
  rw [all]

theorem Counts.mem_free (counts : g.Counts remaining waiting) {label : String} :
    label ∈ free waiting ↔ label ∈ g.ready remaining := by
  rw [free, List.mem_filter, KeyMap.mem_keys, KeyMap.contains, counts label, mem_ready,
    ← unmet_eq_zero_iff]
  by_cases inside : label ∈ remaining <;> simp [inside]

/-! ### One label is done -/

/-- Labels that wait for something can be counted down. -/
theorem countDown_eq {labels : List String} (distinct : labels.Nodup) (ready : List String)
    (positive : ∀ label ∈ labels, waiting.get? label ≠ some 0) :
    ∃ after, countDown labels waiting ready =
        some (after, ready ++ labels.filter fun label => waiting.get? label == some 1) ∧
      ∀ label, after.get? label =
        if label ∈ labels then (waiting.get? label).map (· - 1) else waiting.get? label := by
  induction labels generalizing waiting ready with
  | nil => exact ⟨waiting, by simp [countDown], by simp⟩
  | cons first rest ih =>
    obtain ⟨fresh, distinct⟩ := List.nodup_cons.mp distinct
    obtain ⟨here, later⟩ := List.forall_mem_cons.mp positive
    rw [countDown]
    cases found : waiting.get? first with
    | none =>
      obtain ⟨after, ran, counted⟩ := ih distinct ready later
      refine ⟨after, by simpa [found] using ran, fun label => ?_⟩
      rw [counted]
      by_cases same : label = first
      · simp [same, fresh, found]
      · simp [same]
    | some count =>
      cases count with
      | zero => exact absurd found here
      | succ count =>
        have others (label : String) (member : label ∈ rest) :
            (waiting.insert first count).get? label = waiting.get? label := by
          rw [KeyMap.get?_insert, if_neg fun same : first = label => fresh (same ▸ member)]
        obtain ⟨after, ran, counted⟩ := @ih (waiting.insert first count) distinct
          (if count = 0 then ready ++ [first] else ready)
          fun label member => others label member ▸ later label member
        have same : rest.filter (fun label => (waiting.insert first count).get? label == some 1) =
            rest.filter fun label => waiting.get? label == some 1 :=
          List.filter_congr fun label member => by rw [others label member]
        rw [same] at ran
        refine ⟨after, ?_, fun label => ?_⟩
        · by_cases last : count = 0 <;> simpa [found, last] using ran
        · rw [counted, KeyMap.get?_insert]
          by_cases same : first = label
          · subst same
            simp [fresh, found]
          · simp [same, Ne.symm same]

/-- What one round keeps: when some labels of a layer are still to be done, the counts
are right and the others that depend on no remaining label are ready. -/
structure Finishing (g : Graph) (remaining layer : List String) (waiting : KeyMap Nat)
    (next : List String) : Prop where
  distinct : layer.Nodup
  layer_ready : ∀ label ∈ layer, label ∈ g.ready remaining
  counts : g.Counts remaining waiting
  mem_next : ∀ label, label ∈ next ↔ label ∈ g.ready remaining ∧ label ∉ layer

theorem Finishing.step {label : String} {layer next : List String}
    (finishing : g.Finishing remaining (label :: layer) waiting next) :
    ∃ waiting' next',
      countDown (g.dependents label).toList (waiting.erase label) next = some (waiting', next') ∧
        g.Finishing (without remaining label) layer waiting' next' := by
  obtain ⟨distinct, layer_ready, counts, mem_next⟩ := finishing
  obtain ⟨fresh, distinct⟩ := List.nodup_cons.mp distinct
  obtain ⟨here, later⟩ := List.forall_mem_cons.mp layer_ready
  obtain ⟨inside, settled⟩ := mem_ready.mp here
  have erased (other : String) : (waiting.erase label).get? other =
      if other ∈ without remaining label then some (g.unmet remaining other) else none := by
    rw [KeyMap.get?_erase, counts other]
    by_cases same : label = other
    · subst same
      simp [mem_without]
    · simp [mem_without, same, Ne.symm same]
  -- a dependent still waits for the label that is done
  have positive : ∀ other ∈ (g.dependents label).toList, (waiting.erase label).get? other ≠ some 0 := by
    intro other member
    rw [erased, unmet_of_depends (mem_dependents_iff.mp member) inside]
    split <;> simp
  obtain ⟨after, ran, counted⟩ := countDown_eq (g.dependents label).nodup_toList next positive
  refine ⟨after, _, ran, distinct, fun other member => ?_, fun other => ?_, fun other => ?_⟩
  · obtain ⟨known, free⟩ := mem_ready.mp (later other member)
    refine mem_ready.mpr ⟨mem_without.mpr ⟨known, fun same => fresh (same ▸ member)⟩, fun d depends => ?_⟩
    exact fun kept => free d depends (mem_without.mp kept).1
  · rw [counted, erased]
    by_cases kept : other ∈ without remaining label
    · by_cases depends : g.DependsOn other label
      · simp [kept, SortedSet.mem_toList, mem_dependents_iff, depends, unmet_of_depends depends inside]
      · simp [kept, SortedSet.mem_toList, mem_dependents_iff, depends, unmet_of_not_depends depends]
    · simp [kept]
  · have last : (waiting.erase label).get? other == some 1 ↔
        (other ∈ remaining ∧ other ≠ label) ∧ g.unmet remaining other = 1 := by
      rw [erased, ← mem_without]
      by_cases kept : other ∈ without remaining label <;> simp [kept]
    rw [List.mem_append, mem_next, List.mem_filter, SortedSet.mem_toList, mem_dependents_iff, last,
      mem_ready, mem_ready, ← unmet_eq_zero_iff, ← unmet_eq_zero_iff, mem_without, List.mem_cons, not_or]
    by_cases depends : g.DependsOn other label
    · -- it was not ready before, and none of the layer depends on the label
      have waits := unmet_of_depends depends inside
      have outside : other ∉ layer := fun member =>
        (mem_ready.mp (later other member)).2 label depends inside
      by_cases same : other = label <;> simp [depends, waits, outside, same]
    · have same : g.unmet (without remaining label) other = g.unmet remaining other :=
        unmet_of_not_depends depends
      simp only [depends, false_and, or_false, same]
      tauto

theorem finish_counts {layer next : List String}
    (finishing : g.Finishing remaining layer waiting next) :
    ∃ waiting' next', g.finish layer waiting next = some (waiting', next') ∧
      g.Finishing (remaining.filter fun label => !layer.contains label) [] waiting' next' := by
  induction layer generalizing remaining waiting next with
  | nil =>
    refine ⟨waiting, next, rfl, ?_⟩
    have all : (remaining.filter fun label => !([] : List String).contains label) = remaining := by simp
    rwa [all]
  | cons label layer ih =>
    obtain ⟨waiting', next', ran, finishing⟩ := finishing.step
    obtain ⟨after, last, ended, finishing⟩ := ih finishing
    refine ⟨after, last, ?_, ?_⟩
    · rw [Graph.finish, ran]
      exact ended
    · have split : ((without remaining label).filter fun other => !layer.contains other) =
          remaining.filter fun other => !(label :: layer).contains other := by
        rw [without, List.filter_filter]
        refine List.filter_congr fun other _ => Bool.eq_iff_iff.mpr ?_
        simp [and_comm]
      rwa [split] at finishing

/-! ### Rounds -/

theorem toList_ready {next : List String} (ascending : remaining.Pairwise fun a b => compare a b = .lt)
    (mem_next : ∀ label, label ∈ next ↔ label ∈ g.ready remaining) :
    (SortedSet.ofList next).toList = g.ready remaining := by
  refine SortedSet.eq_of_mem_iff (SortedSet.ofList next).ascending (ascending.filter _) fun label => ?_
  rw [← mem_next]
  exact SortedSet.mem_ofList

/-- Whatever the order in which the ready labels are given, the rounds give the layers of
those that remain, if there are as many rounds as layers. -/
theorem layersFrom_counts {layers : List (List String)} {next : List String}
    (ascending : remaining.Pairwise fun a b => compare a b = .lt)
    (counts : g.Counts remaining waiting)
    (mem_next : ∀ label, label ∈ next ↔ label ∈ g.ready remaining)
    (layered : Layered g remaining layers) (rounds : Nat) :
    g.layersFrom rounds waiting next = if layers.length ≤ rounds then some layers else none := by
  induction layered generalizing waiting next rounds with
  | nil =>
    have none : next = [] := List.eq_nil_iff_forall_not_mem.mpr fun label member => by
      simpa [ready] using (mem_next label).mp member
    simp [none, layersFrom]
  | @cons remaining rest some later ih =>
    have layer := toList_ready ascending mem_next
    obtain ⟨first, more, rfl⟩ : ∃ first more, next = first :: more := by
      obtain ⟨label, member⟩ := List.exists_mem_of_ne_nil _ some
      exact List.exists_cons_of_ne_nil (List.ne_nil_of_mem ((mem_next label).mpr member))
    cases rounds with
    | zero => simp [layersFrom]
    | succ rounds =>
      have starting : g.Finishing remaining (g.ready remaining) waiting [] :=
        ⟨(SortedSet.nodup_toList ⟨remaining, ascending⟩).filter _, fun _ => id, counts, by simp⟩
      obtain ⟨waiting', next', ran, -, -, counts, mem_next⟩ := finish_counts starting
      have later := ih (ascending.filter _) counts
        (fun label => (mem_next label).trans (and_iff_left List.not_mem_nil)) rounds
      rw [layersFrom, layer, ran]
      simp only [Option.bind_eq_bind, Option.bind_some, later, List.length_cons, Nat.add_le_add_iff_right]
      split <;> rfl

/-- On an acyclic graph the layers are built without a label that is counted down below
zero, and use up all labels. The order in which the first labels are found does not
matter, and there are as many rounds as layers. -/
theorem layers_counted (acyclic : g.Acyclic) (ends : g.EndsKnown) :
    Layered g g.nodes.toList g.layers ∧
      ∀ order rounds, (∀ label, label ∈ order ↔ label ∈ free g.waiting) →
        g.layersFrom rounds g.waiting order =
          if g.layers.length ≤ rounds then some g.layers else none := by
  obtain ⟨layers, layered⟩ := exists_layered acyclic ends g.nodes.toList
  have counts := g.waiting_counts ends
  have built (order : List String) (same : ∀ label, label ∈ order ↔ label ∈ free g.waiting)
      (rounds : Nat) : g.layersFrom rounds g.waiting order =
        if layers.length ≤ rounds then some layers else none :=
    layersFrom_counts g.nodes.ascending counts (fun label => (same label).trans counts.mem_free)
      layered rounds
  have enough : layers.length ≤ g.nodes.size := layered.length_le
  have found : g.layers = layers := by
    rw [Graph.layers, built _ (fun _ => Iff.rfl), if_pos enough]
    rfl
  rw [found]
  exact ⟨layered, fun order rounds same => built order same rounds⟩

end Graph

end TaskPlan
