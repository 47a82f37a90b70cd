import TaskPlan.Optimize.Standard
import TaskPlan.Proofs.Optimize.Removal
import TaskPlan.Proofs.Optimize.Replacement
import TaskPlan.Proofs.Optimize.Settlement

/-!
# Reachable task graphs

A successful optimization leaves the graph that its decisions rebuild
(`optimize_gives`). As it removes no task with a dependent that stays, this is a
sound graph again, and so is every graph that comes from tasks by subgraphs and
optimizations in any order (`TaskGraph.Reachable`).
-/

namespace TaskPlan

namespace Optimize

variable {registry : Registry} {ids : TaskIds} {params : OptimizeParams} {input : TaskGraph}
  {removed : SortedSet String} {replaced : KeyMap String} {label : String} {index : Index}

/-! ### Decisions of a run -/

theorem decisionOf_eq_removed : decisionOf removed replaced label = .removed ↔ label ∈ removed := by
  unfold decisionOf
  split
  · simp [*]
  · cases replaced.get? label <;> simp [*]

theorem decisionOf_eq_replaced (within : Within input removed replaced) {taskId : String} :
    decisionOf removed replaced label = .replaced taskId ↔ replaced.get? label = some taskId := by
  unfold decisionOf
  constructor
  · intro h
    split at h
    · cases h
    · cases found : replaced.get? label with
      | none => simp [found] at h
      | some id =>
        rw [found] at h
        cases h
        rfl
  · intro found
    rw [if_neg (within label taskId found).2, found]

theorem decisionOf_of_absent (stays : label ∉ removed) (none : replaced.get? label = none) :
    decisionOf removed replaced label = .keep := by
  rw [decisionOf, if_neg stays, none]

def steps (removed : SortedSet String) (replaced : KeyMap String) : List (String × Decision) :=
  removed.toList.map (fun label => (label, .removed)) ++
    replaced.toList.map fun entry => (entry.1, .replaced entry.2)

theorem survivors_eq_steps :
    survivors input removed replaced =
      (steps removed replaced).foldlM (fun g entry => g.carryOut entry.1 entry.2) input := by
  rw [steps, List.foldlM_append, List.foldlM_map]
  refine congrArg _ (funext fun g => ?_)
  rw [List.foldlM_map]
  rfl

theorem map_fst_steps :
    (steps removed replaced).map Prod.fst = removed.toList ++ replaced.keys := by
  simp [steps, KeyMap.keys, Function.comp_def]

theorem survivors_rebuilt (sound : input.Sound) (known : ∀ x ∈ removed, x ∈ input.graph.nodes)
    (within : Within input removed replaced) :
    survivors input removed replaced = .ok (input.rebuilt (decisionOf removed replaced)) := by
  have mem_replaced {label : String} (member : label ∈ replaced.keys) :
      ∃ taskId, replaced.get? label = some taskId :=
    KeyMap.mem_keys_iff.mp member
  rw [survivors_eq_steps]
  conv_lhs => rw [← TaskGraph.rebuilt_keep sound]
  apply TaskGraph.foldlM_carryOut sound
  · rw [map_fst_steps]
    refine List.nodup_append.mpr ⟨removed.nodup_toList, replaced.keys_nodup, ?_⟩
    rintro label gone _ member rfl
    obtain ⟨taskId, found⟩ := mem_replaced member
    exact (within label taskId found).2 gone
  · rw [map_fst_steps]
    intro label member
    refine ⟨KeyMap.contains_iff.mpr ((sound.known label).mp ?_), rfl⟩
    rcases List.mem_append.mp member with gone | member
    · exact known label gone
    · obtain ⟨taskId, found⟩ := mem_replaced member
      exact (within label taskId found).1
  · rintro ⟨label, decision⟩ member
    rcases List.mem_append.mp member with inRemoved | inReplaced
    · obtain ⟨_, gone, same⟩ := List.mem_map.mp inRemoved
      cases same
      exact decisionOf_eq_removed.mpr gone
    · obtain ⟨⟨_, taskId⟩, entry, same⟩ := List.mem_map.mp inReplaced
      cases same
      exact (decisionOf_eq_replaced within).mpr (KeyMap.mem_toList_iff.mp entry)
  · intro label absent
    rw [map_fst_steps, List.mem_append, not_or] at absent
    refine decisionOf_of_absent absent.1 (Option.eq_none_iff_forall_ne_some.mpr fun taskId found => ?_)
    exact absent.2 (KeyMap.mem_keys_iff.mpr ⟨taskId, found⟩)

/-- What an optimization gives once every task has been decided. -/
def settled (ids : TaskIds) (input : TaskGraph) (decisions : String → Decision) : OptimizedGraph where
  graph := input.rebuilt decisions
  decisions := .ofList (input.graph.postorder.map fun label => (label, decisions label))
  taskIds := .ofList (finalIds ids decisions 0 input.graph.postorder)

/-- A successful optimization in terms of what it removes and replaces. -/
theorem optimize_gives (sound : input.Sound) {out : OptimizedGraph}
    (h : Lookup.Gives index (optimize registry ids params input) out) :
    ∃ removed replaced, removals registry params input = .ok removed ∧
      Lookup.Gives index (replacements registry params input removed) replaced ∧
      out = settled ids input (decisionOf removed replaced) := by
  obtain ⟨_, -, h⟩ := Lookup.gives_bind h
  obtain ⟨removed, removals, h⟩ := Lookup.gives_bind h
  obtain ⟨replaced, replacements, h⟩ := Lookup.gives_bind h
  have removals := Lookup.gives_ofResult.mp removals
  have survivors := survivors_rebuilt sound (removals_known sound removals)
    (replacements_within sound replacements)
  obtain ⟨graph, left, h⟩ := bind_ok_iff.mp (Lookup.gives_ofResult.mp h)
  cases survivors.symm.trans left
  cases h
  exact ⟨removed, replaced, removals, replacements, rfl⟩

/-- Decisions about the tasks of a graph that leave no task without a dependency. -/
structure Consistent (input : TaskGraph) (decisions : String → Decision) : Prop where
  within : ∀ label, label ∉ input.graph.nodes → decisions label = .keep
  closed : ∀ a b, input.graph.DependsOn a b → decisions b = .removed → decisions a = .removed

theorem Consistent.rebuilt_sound {decisions : String → Decision} (consistent : Consistent input decisions)
    (sound : input.Sound) : (input.rebuilt decisions).Sound :=
  (TaskGraph.rebuilt_keeps sound consistent.closed).sound sound

theorem decisionOf_consistent (sound : input.Sound)
    (removals : removals registry params input = .ok removed)
    (replacements : Lookup.Gives index (replacements registry params input removed) replaced) :
    Consistent input (decisionOf removed replaced) where
  within label unknown := by
    refine decisionOf_of_absent (fun gone => ?_) (Option.eq_none_iff_forall_ne_some.mpr fun id found => ?_)
    · exact unknown (removals_known sound removals label gone)
    · exact unknown (replacements_within sound replacements label id found).1
  closed a b depends gone := by
    rw [decisionOf_eq_removed] at gone ⊢
    exact removals_closed sound removals depends gone

theorem optimize_sound (sound : input.Sound) {out : OptimizedGraph}
    (h : Lookup.Gives index (optimize registry ids params input) out) : out.graph.Sound := by
  obtain ⟨removed, replaced, removals, replacements, rfl⟩ := optimize_gives sound h
  exact (decisionOf_consistent sound removals replacements).rebuilt_sound sound

end Optimize

namespace TaskGraph

/-- Graphs of tasks, parts of them and what optimizations leave of them, in any order. -/
inductive Reachable : TaskGraph → Prop where
  | built {tasks : List Task} {g : TaskGraph} (built : ofTasks tasks = .ok g) : Reachable g
  | cut {g part : TaskGraph} {labels : SortedSet String} (reached : Reachable g)
      (cut : g.subgraph labels = .ok part) : Reachable part
  | optimized {g : TaskGraph} {out : OptimizedGraph} {registry : Registry} {ids : TaskIds}
      {params : OptimizeParams} {index : Index} (reached : Reachable g)
      (ran : ((optimize registry ids params g).run index .empty).1 = .ok out) : Reachable out.graph

theorem Reachable.sound {g : TaskGraph} (reachable : g.Reachable) : g.Sound := by
  induction reachable with
  | built built => exact ofTasks_sound built
  | cut _ cut sound => exact subgraph_sound sound cut
  | optimized _ ran sound => exact Optimize.optimize_sound sound ⟨.empty, ran⟩

/-- The edges from a label under the name of a dependency. -/
def edgesUnder (g : TaskGraph) (label name : String) : List Edge :=
  g.graph.edges.toList.filter fun e => e.dependent == label && e.name == name

theorem Sound.edgesUnder_eq {g : TaskGraph} (sound : g.Sound) {label name dependency : String}
    (member : (⟨label, dependency, name⟩ : Edge) ∈ g.graph.edges) :
    g.edgesUnder label name = [⟨label, dependency, name⟩] := by
  have distinct : (g.edgesUnder label name).Nodup := g.graph.edges.nodup_toList.filter _
  refine List.perm_singleton.mp ((List.perm_ext_iff_of_nodup distinct (List.nodup_singleton _)).mpr ?_)
  rintro ⟨dependent, other, under⟩
  simp only [edgesUnder, List.mem_filter, Bool.and_eq_true, beq_iff_eq, List.mem_singleton]
  constructor
  · rintro ⟨also, rfl, rfl⟩
    rw [sound.edge_unique member also]
  · rintro same
    cases same
    exact ⟨member, rfl, rfl⟩

theorem Sound.edgesUnder_eq_nil {g : TaskGraph} (sound : g.Sound) {label name id : String}
    (found : (g.externalOf label).get? name = some id) : g.edgesUnder label name = [] := by
  refine List.filter_eq_nil_iff.mpr ?_
  rintro ⟨dependent, dependency, under⟩ member same
  simp only [Bool.and_eq_true, beq_iff_eq] at same
  obtain ⟨rfl, rfl⟩ := same
  rw [get?_externalOf, sound.idUnder_of_edge member] at found
  cases found

/-- In a reachable graph the tasks are the labels of an acyclic graph, and every
dependency that a task declares is there once: as the one edge under its name, or as
the id of a task that has replaced it. There are no other edges and no other ids. -/
theorem Reachable.dependencies_accounted {g : TaskGraph} (reachable : g.Reachable) :
    (∀ label, label ∈ g.graph.nodes ↔ label ∈ g.labels) ∧
    (∀ label task, g.get? label = some task → task.label = label) ∧
    g.graph.Acyclic ∧ g.graph.EndsKnown ∧
    (∀ label task name dependency, g.get? label = some task →
      task.dependencies.get? name = some dependency →
      (g.edgesUnder label name = [⟨label, dependency, name⟩] ∧
        (g.externalOf label).get? name = none) ∨
      (g.edgesUnder label name = [] ∧ ∃ id, (g.externalOf label).get? name = some id)) ∧
    (∀ e ∈ g.graph.edges, ∃ task, g.get? e.dependent = some task ∧
      task.dependencies.get? e.name = some e.dependency) ∧
    (∀ label ids, g.external.get? label = some ids → ids ≠ .empty ∧
      ∃ task, g.get? label = some task ∧
        ∀ name id, ids.get? name = some id → task.dependencies.contains name = true) := by
  have sound := reachable.sound
  refine ⟨?_, sound.labelled, sound.acyclic, sound.ends, ?_, sound.declared, ?_⟩
  · intro label
    rw [sound.known, labels, KeyMap.mem_keys_iff]
    rfl
  · intro label task name dependency found declared
    have one := sound.accounted label task name dependency found declared
    cases under : (g.externalOf label).get? name with
    | none =>
      rw [get?_externalOf] at under
      exact .inl ⟨sound.edgesUnder_eq (one.mpr under), rfl⟩
    | some id => exact .inr ⟨sound.edgesUnder_eq_nil under, id, rfl⟩
  · intro label ids found
    obtain ⟨name, id, under⟩ := sound.tight label ids found
    have declares (name id : String) (under : ids.get? name = some id) :
        ∃ task dependency, g.get? label = some task ∧
          task.dependencies.get? name = some dependency :=
      sound.replaced label name id (by rw [idUnder, found, Option.bind_some, under])
    obtain ⟨task, _, present, -⟩ := declares name id under
    refine ⟨?_, task, present, ?_⟩
    · rintro rfl
      cases under
    · intro name id under
      obtain ⟨other, dependency, present', declared⟩ := declares name id under
      cases present.symm.trans present'
      exact KeyMap.contains_iff.mpr ⟨dependency, declared⟩

/-- An image that is looked for in an index, and a task that uses it. -/
def imageAndUse : List Task :=
  [⟨"image", "docker", .empty, .empty, some (.indexSearch ["images.latest"]), .alwaysOptimized, .null⟩,
    ⟨"use", "run", .empty, .ofList [("base", "image")], none, .alwaysOptimized, .null⟩]

/-- An index with one result. -/
def imageIndex : Index := fun path =>
  if path = "images.latest" then .ok (some ⟨"T", .completed, ⟨0, 0⟩⟩) else .ok none

/-- The dependency on a replaced task is accounted for by its id. -/
theorem Reachable.dependencies_accounted_replaced :
    ∃ g : TaskGraph, g.Reachable ∧ g.labels = ["use"] ∧
      ∃ id, (g.externalOf "use").get? "base" = some id := by
  obtain ⟨g, built, h⟩ := exists_ok (x := ofTasks imageAndUse)
    (p := fun g => ((optimize .standard (.sequential "t") .empty g).run imageIndex .empty).1.toOption.any
      fun out => out.graph.labels = ["use"] ∧
        ((out.graph.get? "use").bind fun task => task.dependencies.get? "base") = some "image")
    (by decide +kernel)
  obtain ⟨out, ran, h⟩ := exists_ok h
  obtain ⟨labels, declared⟩ := of_decide_eq_true h
  have reached := (Reachable.built built).optimized ran
  obtain ⟨known, -, -, ends, accounted, -⟩ := reached.dependencies_accounted
  obtain ⟨task, found, declared⟩ := Option.bind_eq_some_iff.mp declared
  refine ⟨out.graph, reached, labels, ?_⟩
  rcases accounted "use" task "base" "image" found declared with ⟨edge, -⟩ | ⟨-, id⟩
  · have member : (⟨"use", "image", "base"⟩ : Edge) ∈ out.graph.edgesUnder "use" "base" := by simp [edge]
    have inside := (known "image").mp (ends _ (List.mem_filter.mp member).1).2
    rw [labels] at inside
    simp at inside
  · exact id

end TaskGraph

end TaskPlan
