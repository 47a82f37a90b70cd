import TaskPlan.Optimize.Basic
import TaskPlan.Proofs.TaskGraph.Sound

/-!
# Carrying out decisions

An optimization takes removed and replaced tasks out of the graph one by one.
`TaskGraph.rebuilt` says at once what is left when every task has been decided: the
kept tasks, the edges between them, and the ids of the tasks that replaced
dependencies. A step that carries out one more decision leads from one rebuilt graph
to the next (`carryOut_rebuilt`), so that steps for different tasks arrive there in
any order (`foldlM_carryOut`).
-/

namespace TaskPlan

/-- The id that takes the place of a task. -/
def Decision.taskId? : Decision → Option String
  | .replaced taskId => some taskId
  | _ => none

theorem Decision.taskId?_eq_some {decision : Decision} {taskId : String} :
    decision.taskId? = some taskId ↔ decision = .replaced taskId := by
  cases decision <;> simp [taskId?]

namespace TaskGraph

/-- The graph after the decision about one task. -/
def carryOut (g : TaskGraph) (label : String) : Decision → Result TaskGraph
  | .keep => .ok g
  | .replaced taskId => g.replace label taskId
  | .removed => g.erase label

/-- The ids that a task has in the place of dependencies, with those of the
dependencies that are replaced. -/
def idsAfter (g : TaskGraph) (decisions : String → Decision) (label : String) : KeyMap String :=
  .ofList ((g.externalOf label).toList ++
    (g.dependencies label).toList.filterMap fun entry =>
      (decisions entry.2).taskId?.map fun taskId => (entry.1, taskId))

/-- The kept tasks of a graph. -/
def rebuilt (g : TaskGraph) (decisions : String → Decision) : TaskGraph where
  tasks := g.tasks.filter fun label _ => decisions label == .keep
  graph := {
    nodes := g.graph.nodes.filter fun label => decisions label == .keep
    edges := g.graph.edges.filter fun e =>
      decisions e.dependent == .keep && decisions e.dependency == .keep }
  external :=
    ((g.tasks.filter fun label _ => decisions label == .keep).map fun label _ =>
      g.idsAfter decisions label).filter fun _ ids => decide (ids ≠ .empty)

variable {g : TaskGraph} {decisions : String → Decision} {label : String}

theorem get?_rebuilt {task : Task} :
    (g.rebuilt decisions).get? label = some task ↔
      decisions label = .keep ∧ g.get? label = some task := by
  unfold get? rebuilt
  rw [KeyMap.get?_filter_keys (fun label => decisions label == .keep)]
  simp

theorem contains_rebuilt :
    (g.rebuilt decisions).tasks.contains label = true ↔
      decisions label = .keep ∧ g.tasks.contains label = true := by
  simp only [KeyMap.contains_iff]
  exact (exists_congr fun task => get?_rebuilt).trans exists_and_left

theorem mem_nodes_rebuilt :
    label ∈ (g.rebuilt decisions).graph.nodes ↔
      decisions label = .keep ∧ label ∈ g.graph.nodes := by
  simp [rebuilt, and_comm]

theorem mem_edges_rebuilt {e : Edge} :
    e ∈ (g.rebuilt decisions).graph.edges ↔
      e ∈ g.graph.edges ∧ decisions e.dependent = .keep ∧ decisions e.dependency = .keep := by
  simp [rebuilt]

theorem eq_of_parts {h : TaskGraph} (tasks : g.tasks = h.tasks)
    (nodes : g.graph.nodes = h.graph.nodes) (edges : g.graph.edges = h.graph.edges)
    (external : g.external = h.external) : g = h := by
  obtain ⟨_, ⟨_, _⟩, _⟩ := g
  obtain ⟨_, ⟨_, _⟩, _⟩ := h
  cases tasks
  cases nodes
  cases edges
  cases external
  rfl

/-! ### Ids in the rebuilt graph -/

theorem get?_idsAfter (name : String) :
    (g.idsAfter decisions label).get? name =
      (((g.dependencies label).get? name).bind fun dependency => (decisions dependency).taskId?).or
        (idUnder g.external label name) := by
  rw [idsAfter, KeyMap.get?_ofList_append, KeyMap.get?_ofList_toList, get?_externalOf,
    KeyMap.get?_ofList_filterMap (fun dependency => (decisions dependency).taskId?)]

theorem tight_rebuilt : Tight (g.rebuilt decisions).external := by
  intro label ids found
  rw [rebuilt, KeyMap.get?_filter, Option.filter_eq_some_iff] at found
  by_contra none
  refine of_decide_eq_true found.2 (KeyMap.eq_empty_iff.mpr fun name => ?_)
  exact Option.eq_none_iff_forall_ne_some.mpr fun id under => none ⟨name, id, under⟩

/-- In the rebuilt graph a kept task has the ids it had and those of its replaced
dependencies. -/
theorem idUnder_rebuilt (sound : g.Sound) (label name : String) :
    idUnder (g.rebuilt decisions).external label name =
      if decisions label = .keep then
        (((g.dependencies label).get? name).bind fun dependency => (decisions dependency).taskId?).or
          (idUnder g.external label name)
      else none := by
  rw [← get?_idsAfter]
  unfold idUnder rebuilt
  rw [KeyMap.get?_filter, KeyMap.get?_map, KeyMap.get?_filter_keys (fun label => decisions label == .keep)]
  by_cases kept : decisions label = .keep
  · rw [if_pos (by simp [kept]), if_pos kept]
    cases found : g.tasks.get? label with
    | none =>
      -- a label without a task has neither edges nor ids
      have noEdge : (g.dependencies label).get? name = none := by
        refine Option.eq_none_iff_forall_ne_some.mpr fun dependency edge => ?_
        obtain ⟨task, present, -⟩ := sound.declared _ (sound.get?_dependencies.mp edge)
        cases found.symm.trans present
      have noId : idUnder g.external label name = none := by
        refine Option.eq_none_iff_forall_ne_some.mpr fun id under => ?_
        obtain ⟨task, _, present, -⟩ := sound.replaced label name id under
        cases found.symm.trans present
      rw [get?_idsAfter, noEdge, noId]
      rfl
    | some task =>
      by_cases none : g.idsAfter decisions label = .empty
      · simp [none]
      · simp [Option.filter, none]
  · rw [if_neg (by simp [kept]), if_neg kept]
    rfl

theorem rebuilt_keep (sound : g.Sound) : g.rebuilt (fun _ => .keep) = g := by
  have tasks : (g.rebuilt fun _ => .keep).tasks = g.tasks := by
    apply KeyMap.ext_get?
    intro label
    apply Option.ext
    intro task
    exact get?_rebuilt.trans (and_iff_right rfl)
  have nodes : (g.rebuilt fun _ => .keep).graph.nodes = g.graph.nodes := by
    apply SortedSet.ext_mem
    intro label
    exact mem_nodes_rebuilt.trans (and_iff_right rfl)
  have edges : (g.rebuilt fun _ => .keep).graph.edges = g.graph.edges := by
    apply SortedSet.ext_mem
    intro e
    exact mem_edges_rebuilt.trans (and_iff_left ⟨rfl, rfl⟩)
  have external : (g.rebuilt fun _ => .keep).external = g.external := by
    refine ext_idUnder tight_rebuilt sound.tight fun label name => ?_
    rw [idUnder_rebuilt sound, if_pos rfl]
    cases (g.dependencies label).get? name <;> rfl
  exact eq_of_parts tasks nodes edges external

/-! ### One decision after the other -/

theorem idUnder_rebuilt_of_edge (sound : g.Sound) {name dependency : String}
    (member : (⟨label, dependency, name⟩ : Edge) ∈ (g.rebuilt decisions).graph.edges) :
    idUnder (g.rebuilt decisions).external label name = none := by
  obtain ⟨old, kept, keptToo⟩ := mem_edges_rebuilt.mp member
  rw [idUnder_rebuilt sound, if_pos kept, sound.get?_dependencies.mpr old, Option.bind_some, keptToo,
    sound.idUnder_of_edge old]
  rfl

section Update

variable {decision : Decision}

theorem tasks_rebuilt_update (gone : decision ≠ .keep) :
    (g.rebuilt (Function.update decisions label decision)).tasks =
      (g.rebuilt decisions).tasks.erase label := by
  apply KeyMap.ext_get?
  intro other
  apply Option.ext
  intro task
  refine get?_rebuilt.trans ?_
  rw [KeyMap.get?_erase]
  by_cases same : label = other
  · simp [← same, gone]
  · rw [Function.update_of_ne (Ne.symm same), if_neg same]
    exact get?_rebuilt.symm

theorem graph_rebuilt_update (gone : decision ≠ .keep) :
    (g.rebuilt (Function.update decisions label decision)).graph =
      (g.rebuilt decisions).graph.erase label := by
  have kept_iff (other : String) : Function.update decisions label decision other = .keep ↔
      decisions other = .keep ∧ other ≠ label := by
    by_cases same : other = label
    · simp [same, gone]
    · simp [same]
  have nodes : (g.rebuilt (Function.update decisions label decision)).graph.nodes =
      ((g.rebuilt decisions).graph.erase label).nodes := by
    apply SortedSet.ext_mem
    intro other
    rw [mem_nodes_rebuilt, kept_iff, Graph.erase, SortedSet.mem_filter, mem_nodes_rebuilt, bne_iff_ne]
    tauto
  have edges : (g.rebuilt (Function.update decisions label decision)).graph.edges =
      ((g.rebuilt decisions).graph.erase label).edges := by
    apply SortedSet.ext_mem
    intro e
    rw [mem_edges_rebuilt, kept_iff, kept_iff, Graph.erase, SortedSet.mem_filter, mem_edges_rebuilt,
      Bool.and_eq_true, bne_iff_ne, bne_iff_ne]
    tauto
  exact congrArg₂ Graph.mk nodes edges

/-- The dependents of a task that is decided get the id that takes its place. -/
theorem idUnder_rebuilt_update (sound : g.Sound) (kept : decisions label = .keep)
    (gone : decision ≠ .keep) (other name : String) :
    idUnder (g.rebuilt (Function.update decisions label decision)).external other name =
      if label = other then none
      else if (⟨other, label, name⟩ : Edge) ∈ (g.rebuilt decisions).graph.edges then decision.taskId?
      else idUnder (g.rebuilt decisions).external other name := by
  rw [idUnder_rebuilt sound, idUnder_rebuilt sound]
  by_cases same : label = other
  · simp [← same, gone]
  rw [Function.update_of_ne (Ne.symm same), if_neg same]
  by_cases keptToo : decisions other = .keep
  · rw [if_pos keptToo, if_pos keptToo]
    cases edge : (g.dependencies other).get? name with
    | none =>
      have noEdge : (⟨other, label, name⟩ : Edge) ∉ (g.rebuilt decisions).graph.edges := by
        intro member
        rw [sound.get?_dependencies.mpr (mem_edges_rebuilt.mp member).1] at edge
        cases edge
      rw [if_neg noEdge]
      rfl
    | some dependency =>
      have member := sound.get?_dependencies.mp edge
      by_cases here : dependency = label
      · subst here
        rw [if_pos (mem_edges_rebuilt.mpr ⟨member, keptToo, kept⟩), Option.bind_some,
          Function.update_self, sound.idUnder_of_edge member, Option.or_none]
      · have noEdge : (⟨other, label, name⟩ : Edge) ∉ (g.rebuilt decisions).graph.edges :=
          fun also => here (sound.edge_unique member (mem_edges_rebuilt.mp also).1)
        rw [if_neg noEdge, Option.bind_some, Option.bind_some, Function.update_of_ne here]
  · rw [if_neg keptToo, if_neg keptToo, if_neg fun member => keptToo (mem_edges_rebuilt.mp member).2.1]

end Update

/-- To carry out the decision about a task that is still kept is to rebuild with it. -/
theorem carryOut_rebuilt (sound : g.Sound) (known : g.tasks.contains label = true)
    (kept : decisions label = .keep) (decision : Decision) :
    (g.rebuilt decisions).carryOut label decision =
      .ok (g.rebuilt (Function.update decisions label decision)) := by
  have present := contains_rebuilt.mpr ⟨kept, known⟩
  cases decision with
  | keep => rw [← kept, Function.update_eq_self, kept, carryOut]
  | removed =>
    have gone : Decision.removed ≠ .keep := nofun
    rw [carryOut, erase, if_pos present]
    refine congrArg Except.ok (eq_of_parts (tasks_rebuilt_update gone).symm ?_ ?_ ?_)
    · rw [graph_rebuilt_update gone]
    · rw [graph_rebuilt_update gone]
    refine ext_idUnder (tight_filter tight_rebuilt _) tight_rebuilt fun other name => ?_
    rw [idUnder_erase, idUnder_rebuilt_update sound kept gone]
    by_cases edge : (⟨other, label, name⟩ : Edge) ∈ (g.rebuilt decisions).graph.edges
    · rw [if_pos edge, idUnder_rebuilt_of_edge sound edge]
      rfl
    · rw [if_neg edge]
  | replaced taskId =>
    have gone : Decision.replaced taskId ≠ .keep := nofun
    rw [carryOut, replace, if_pos present]
    refine congrArg Except.ok (eq_of_parts (tasks_rebuilt_update gone).symm ?_ ?_ ?_)
    · rw [graph_rebuilt_update gone]
    · rw [graph_rebuilt_update gone]
    refine ext_idUnder (tight_foldl_addExternal (tight_filter tight_rebuilt _) _ _) tight_rebuilt
      fun other name => ?_
    have edge_iff : (∃ e ∈ (g.rebuilt decisions).graph.edges.toList.filter (fun e => e.dependency == label),
        e.dependent = other ∧ e.name = name) ↔
        (⟨other, label, name⟩ : Edge) ∈ (g.rebuilt decisions).graph.edges := by
      simp only [List.mem_filter, beq_iff_eq]
      constructor
      · rintro ⟨e, ⟨member, rfl⟩, rfl, rfl⟩
        exact member
      · intro member
        exact ⟨_, ⟨member, rfl⟩, rfl, rfl⟩
    rw [idUnder_foldl_addExternal, idUnder_erase, idUnder_rebuilt_update sound kept gone]
    by_cases edge : (⟨other, label, name⟩ : Edge) ∈ (g.rebuilt decisions).graph.edges
    · have apart : label ≠ other := by
        rintro rfl
        exact sound.acyclic.irrefl label ⟨name, (mem_edges_rebuilt.mp edge).1⟩
      rw [if_pos (edge_iff.mpr edge), if_neg apart, if_pos edge]
      rfl
    · rw [if_neg (edge_iff.not.mpr edge), if_neg edge]

/-- Decisions about different tasks lead to the rebuilt graph in whatever order they
are carried out. -/
theorem foldlM_carryOut (sound : g.Sound) {steps : List (String × Decision)}
    {final : String → Decision} (distinct : (steps.map Prod.fst).Nodup)
    (open' : ∀ label ∈ steps.map Prod.fst,
      g.tasks.contains label = true ∧ decisions label = .keep)
    (decided : ∀ entry ∈ steps, final entry.1 = entry.2)
    (others : ∀ label, label ∉ steps.map Prod.fst → final label = decisions label) :
    steps.foldlM (fun g entry => g.carryOut entry.1 entry.2) (g.rebuilt decisions) =
      .ok (g.rebuilt final) := by
  -- by induction on the steps, from the graph that those before them have rebuilt
  induction steps generalizing decisions with
  | nil =>
    have same : final = decisions := funext fun label => others label List.not_mem_nil
    rw [same]
    rfl
  | cons entry rest ih =>
    obtain ⟨label, decision⟩ := entry
    rw [List.map_cons] at distinct open' others
    obtain ⟨fresh, distinct⟩ := List.nodup_cons.mp distinct
    obtain ⟨known, kept⟩ := open' label List.mem_cons_self
    rw [List.foldlM_cons, carryOut_rebuilt sound known kept]
    refine ih distinct ?_ ?_ ?_
    · intro other member
      obtain ⟨known', kept'⟩ := open' other (List.mem_cons_of_mem _ member)
      refine ⟨known', ?_⟩
      rw [Function.update_of_ne, kept']
      rintro rfl
      exact fresh member
    · intro entry member
      exact decided entry (List.mem_cons_of_mem _ member)
    · intro other absent
      by_cases same : other = label
      · subst same
        rw [Function.update_self]
        exact decided _ List.mem_cons_self
      · rw [Function.update_of_ne same]
        refine others other fun member => ?_
        rcases List.mem_cons.mp member with here | there
        · exact same here
        · exact absent there

/-! ### Soundness -/

/-- If no task loses a dependency that it needs, the rebuilt graph is the part of the
graph on the kept labels. -/
theorem rebuilt_keeps (sound : g.Sound)
    (closed : ∀ a b, g.graph.DependsOn a b → decisions b = .removed → decisions a = .removed) :
    Keeps (fun label => decisions label = .keep) g (g.rebuilt decisions) where
  tasks _ _ := get?_rebuilt
  nodes _ := mem_nodes_rebuilt
  edges _ := mem_edges_rebuilt
  tight := tight_rebuilt
  ids label name := by
    rw [idUnder_rebuilt sound]
    by_cases kept : decisions label = .keep
    · rw [if_pos kept]
      simp only [kept, true_and]
      cases edge : (g.dependencies label).get? name with
      | none =>
        refine ⟨.inl, fun h => h.resolve_right ?_⟩
        rintro ⟨dependency, member, -⟩
        rw [sound.get?_dependencies.mpr member] at edge
        cases edge
      | some dependency =>
        have member := sound.get?_dependencies.mp edge
        have noId := sound.idUnder_of_edge member
        rw [noId, Option.or_none, Option.bind_some]
        constructor
        · rintro ⟨id, taken⟩
          refine .inr ⟨dependency, member, fun keptToo => ?_⟩
          rw [keptToo] at taken
          cases taken
        · rintro (⟨id, none⟩ | ⟨other, member', gone⟩)
          · cases none
          · cases sound.edge_unique member member'
            cases decided : decisions dependency with
            | keep => exact absurd decided gone
            | replaced taskId => exact ⟨taskId, rfl⟩
            | removed =>
              have lost := closed label dependency ⟨name, member⟩ decided
              rw [kept] at lost
              cases lost
    · simp [kept]

end TaskGraph

end TaskPlan
