import TaskPlan.TaskGraph
import TaskPlan.Proofs.Graph.Closure
import TaskPlan.Proofs.Graph.Cycle
import TaskPlan.Proofs.Graph.Layers

/-!
# Sound task graphs

A task graph keeps tasks, edges and the ids of replaced dependencies in three maps.
They fit together (`TaskGraph.Sound`) if the graph is one of the tasks' labels, has
known ends and no cycle, and every dependency that a task declares is either an edge
or an id, and nothing else is. Graphs of tasks are sound (`ofTasks_sound`) and so are
the parts that some labels need (`subgraph_sound`).
-/

namespace TaskPlan

namespace TaskGraph

/-! ### Ids of replaced dependencies -/

/-- The id under a label and a dependency name. -/
def idUnder (external : KeyMap (KeyMap String)) (label name : String) : Option String :=
  (external.get? label).bind fun ids => ids.get? name

/-- No label is kept without an id. -/
def Tight (external : KeyMap (KeyMap String)) : Prop :=
  ∀ label ids, external.get? label = some ids → ∃ name id, ids.get? name = some id

section External

variable {external : KeyMap (KeyMap String)}

theorem get?_externalOf (g : TaskGraph) (label name : String) :
    (g.externalOf label).get? name = idUnder g.external label name := by
  unfold externalOf idUnder
  cases g.external.get? label <;> rfl

theorem tight_empty : Tight .empty := by
  intro label ids found
  cases found

theorem tight_filter (tight : Tight external) (p : String → KeyMap String → Bool) :
    Tight (external.filter p) := by
  intro label ids found
  rw [KeyMap.get?_filter, Option.filter_eq_some_iff] at found
  exact tight label ids found.1

theorem idUnder_filter (p : String → Bool) (label name : String) :
    idUnder (external.filter fun key _ => p key) label name =
      if p label then idUnder external label name else none := by
  unfold idUnder
  rw [KeyMap.get?_filter_keys]
  split <;> rfl

theorem idUnder_erase (erased label name : String) :
    idUnder (external.erase erased) label name =
      if erased = label then none else idUnder external label name := by
  unfold idUnder
  rw [KeyMap.get?_erase]
  split <;> rfl

theorem idUnder_addExternal (taskId : String) (e : Edge) (label name : String) :
    idUnder (addExternal taskId external e) label name =
      if e.dependent = label ∧ e.name = name then some taskId else idUnder external label name := by
  unfold idUnder addExternal
  rw [KeyMap.get?_insert]
  by_cases same : e.dependent = label
  · subst same
    rw [if_pos rfl, Option.bind_some, KeyMap.get?_insert]
    cases external.get? e.dependent <;> simp
  · simp [same]

theorem tight_addExternal (tight : Tight external) (taskId : String) (e : Edge) :
    Tight (addExternal taskId external e) := by
  intro label ids found
  rw [addExternal, KeyMap.get?_insert] at found
  split at found
  · cases found
    exact ⟨e.name, taskId, by rw [KeyMap.get?_insert, if_pos rfl]⟩
  · exact tight label ids found

theorem tight_foldl_addExternal (tight : Tight external) (taskId : String) (edges : List Edge) :
    Tight (edges.foldl (addExternal taskId) external) := by
  induction edges generalizing external with
  | nil => exact tight
  | cons e rest ih => exact ih (tight_addExternal tight taskId e)

theorem idUnder_foldl_addExternal (taskId : String) (edges : List Edge) (label name : String) :
    idUnder (edges.foldl (addExternal taskId) external) label name =
      if ∃ e ∈ edges, e.dependent = label ∧ e.name = name then some taskId
      else idUnder external label name := by
  induction edges generalizing external with
  | nil => simp
  | cons e rest ih =>
    rw [List.foldl_cons, ih, idUnder_addExternal]
    by_cases later : ∃ e ∈ rest, e.dependent = label ∧ e.name = name
    · have some : ∃ d ∈ e :: rest, d.dependent = label ∧ d.name = name := by
        obtain ⟨d, member, same⟩ := later
        exact ⟨d, List.mem_cons_of_mem _ member, same⟩
      rw [if_pos later, if_pos some]
    · rw [if_neg later]
      by_cases now : e.dependent = label ∧ e.name = name
      · rw [if_pos now, if_pos ⟨e, List.mem_cons_self, now⟩]
      · rw [if_neg now, if_neg]
        rintro ⟨d, member, same⟩
        rcases List.mem_cons.mp member with rfl | member
        · exact now same
        · exact later ⟨d, member, same⟩

/-- Without labels that have no ids, the ids decide the map. -/
theorem ext_idUnder {other : KeyMap (KeyMap String)} (tight : Tight external) (tight' : Tight other)
    (same : ∀ label name, idUnder external label name = idUnder other label name) :
    external = other := by
  apply KeyMap.ext_get?
  intro label
  cases left : external.get? label with
  | none =>
    cases right : other.get? label with
    | none => rfl
    | some ids =>
      obtain ⟨name, id, found⟩ := tight' label ids right
      have := same label name
      simp [idUnder, left, right, found] at this
  | some ids =>
    cases right : other.get? label with
    | none =>
      obtain ⟨name, id, found⟩ := tight label ids left
      have := same label name
      simp [idUnder, left, right, found] at this
    | some others =>
      congr 1
      apply KeyMap.ext_get?
      intro name
      simpa [idUnder, left, right] using same label name

end External

/-! ### Soundness -/

/-- Tasks, edges and ids of replaced dependencies fit together. -/
structure Sound (g : TaskGraph) : Prop where
  known : ∀ label, label ∈ g.graph.nodes ↔ ∃ task, g.get? label = some task
  labelled : ∀ label task, g.get? label = some task → task.label = label
  ends : g.graph.EndsKnown
  acyclic : g.graph.Acyclic
  declared : ∀ e ∈ g.graph.edges, ∃ task, g.get? e.dependent = some task ∧
    task.dependencies.get? e.name = some e.dependency
  tight : Tight g.external
  replaced : ∀ label name id, idUnder g.external label name = some id →
    ∃ task dependency, g.get? label = some task ∧ task.dependencies.get? name = some dependency
  /-- a declared dependency is an edge or has an id, and not both -/
  accounted : ∀ label task name dependency, g.get? label = some task →
    task.dependencies.get? name = some dependency →
    ((⟨label, dependency, name⟩ : Edge) ∈ g.graph.edges ↔ idUnder g.external label name = none)

namespace Sound

variable {g : TaskGraph} {label name dependency : String}

theorem mem_postorder (sound : g.Sound) : label ∈ g.graph.postorder ↔ label ∈ g.graph.nodes :=
  Graph.mem_postorder sound.acyclic sound.ends

theorem edge_unique (sound : g.Sound) {other : String}
    (first : (⟨label, dependency, name⟩ : Edge) ∈ g.graph.edges)
    (second : (⟨label, other, name⟩ : Edge) ∈ g.graph.edges) : dependency = other := by
  obtain ⟨task, found, declared⟩ := sound.declared _ first
  obtain ⟨task', found', declared'⟩ := sound.declared _ second
  cases found.symm.trans found'
  exact Option.some.inj (declared.symm.trans declared')

theorem get?_dependencies (sound : g.Sound) :
    (g.dependencies label).get? name = some dependency ↔
      (⟨label, dependency, name⟩ : Edge) ∈ g.graph.edges := by
  rw [TaskGraph.dependencies, Graph.named, KeyMap.get?_ofList_iff]
  · simp only [List.mem_map, List.mem_filter, beq_iff_eq, Prod.mk.injEq]
    constructor
    · rintro ⟨⟨dependent, target, under⟩, ⟨member, rfl⟩, rfl, rfl⟩
      exact member
    · intro member
      exact ⟨_, ⟨member, rfl⟩, rfl, rfl⟩
  · rw [List.map_map]
    refine List.Nodup.map_on ?_ (g.graph.edges.nodup_toList.filter _)
    rintro ⟨dependent, target, under⟩ first ⟨dependent', target', under'⟩ second same
    simp only [List.mem_filter, beq_iff_eq] at first second
    obtain ⟨first, rfl⟩ := first
    obtain ⟨second, rfl⟩ := second
    cases same
    cases sound.edge_unique first second
    rfl

/-- In a graph without replaced dependencies all that a task declares are edges. -/
theorem edge_of_declared (sound : g.Sound) (without : g.external = .empty) {task : Task}
    (found : g.get? label = some task) (declared : task.dependencies.get? name = some dependency) :
    (⟨label, dependency, name⟩ : Edge) ∈ g.graph.edges := by
  rw [sound.accounted label task name dependency found declared, without]
  rfl

theorem mem_tasks (sound : g.Sound) {task : Task} :
    task ∈ g.postorder ↔ g.get? task.label = some task := by
  rw [postorder, List.mem_filterMap]
  constructor
  · rintro ⟨label, -, found⟩
    rwa [sound.labelled label task found]
  · intro found
    exact ⟨task.label, sound.mem_postorder.mpr ((sound.known _).mpr ⟨task, found⟩), found⟩

theorem nodup_tasks (sound : g.Sound) : g.postorder.Nodup := by
  refine (Graph.nodup_postorder sound.acyclic sound.ends).filterMap ?_
  intro a b task found foundToo
  rw [← sound.labelled a task found, ← sound.labelled b task foundToo]

theorem idUnder_of_edge (sound : g.Sound)
    (member : (⟨label, dependency, name⟩ : Edge) ∈ g.graph.edges) :
    idUnder g.external label name = none := by
  obtain ⟨task, found, declared⟩ := sound.declared _ member
  exact (sound.accounted label task name dependency found declared).mp member

theorem get?_dependencies_eq_none (sound : g.Sound) {id : String}
    (found : idUnder g.external label name = some id) : (g.dependencies label).get? name = none := by
  refine Option.eq_none_iff_forall_ne_some.mpr fun dependency edge => ?_
  rw [sound.idUnder_of_edge (sound.get?_dependencies.mp edge)] at found
  cases found

theorem contains_declared (sound : g.Sound) {task : Task} (found : g.get? label = some task) :
    task.dependencies.contains name =
      ((g.dependencies label).contains name || (g.externalOf label).contains name) := by
  rw [Bool.eq_iff_iff, Bool.or_eq_true]
  simp only [KeyMap.contains_iff, get?_externalOf, sound.get?_dependencies]
  constructor
  · rintro ⟨dependency, declared⟩
    cases under : idUnder g.external label name with
    | none => exact .inl ⟨dependency, (sound.accounted label task name dependency found declared).mpr under⟩
    | some id => exact .inr ⟨id, rfl⟩
  · rintro (⟨dependency, edge⟩ | ⟨id, under⟩)
    · obtain ⟨other, present, declared⟩ := sound.declared _ edge
      cases found.symm.trans present
      exact ⟨dependency, declared⟩
    · obtain ⟨other, dependency, present, declared⟩ := sound.replaced label name id under
      cases found.symm.trans present
      exact ⟨dependency, declared⟩

end Sound

/-! ### Graphs of tasks -/

theorem collect_labelled {tasks : List Task} {done all : KeyMap Task}
    (fits : ∀ label task, done.get? label = some task → task.label = label)
    (collected : collect tasks done = .ok all) :
    ∀ label task, all.get? label = some task → task.label = label := by
  induction tasks generalizing done with
  | nil =>
    cases collected
    exact fits
  | cons task rest ih =>
    rw [collect] at collected
    split at collected
    · cases collected
    refine ih ?_ collected
    intro label other found
    rw [KeyMap.get?_insert] at found
    split at found
    · cases found
      assumption
    · exact fits label other found

theorem mem_declaredEdges {task : Task} {e : Edge} :
    e ∈ declaredEdges task ↔
      e.dependent = task.label ∧ task.dependencies.get? e.name = some e.dependency := by
  simp only [declaredEdges, List.mem_map, Prod.exists, KeyMap.mem_toList_iff]
  constructor
  · rintro ⟨name, dependency, found, rfl⟩
    exact ⟨rfl, found⟩
  · obtain ⟨dependent, dependency, name⟩ := e
    rintro ⟨same, found⟩
    exact ⟨name, dependency, found, by rw [← same]⟩

/-- The edges that tasks declare, if each task is under its own label. -/
theorem mem_edgesOf {all : KeyMap Task}
    (labelled : ∀ label task, all.get? label = some task → task.label = label) (e : Edge) :
    e ∈ SortedSet.ofList (all.values.flatMap declaredEdges) ↔
      ∃ task, all.get? e.dependent = some task ∧ task.dependencies.get? e.name = some e.dependency := by
  simp only [SortedSet.mem_ofList, List.mem_flatMap, KeyMap.mem_values, mem_declaredEdges]
  constructor
  · rintro ⟨task, ⟨label, found⟩, same, declared⟩
    rw [same, labelled label task found]
    exact ⟨task, found, declared⟩
  · rintro ⟨task, found, declared⟩
    exact ⟨task, ⟨_, found⟩, (labelled _ task found).symm, declared⟩

theorem ofTasks_sound {tasks : List Task} {g : TaskGraph} (built : ofTasks tasks = .ok g) :
    g.Sound := by
  obtain ⟨all, collected, built⟩ := bind_ok_iff.mp built
  obtain ⟨graph, parts, built⟩ := bind_ok_iff.mp built
  cases built
  obtain ⟨rfl, ends, acyclic⟩ := Graph.ofParts_ok parts
  have labelled := collect_labelled (by simp) collected
  have mem_edges := mem_edgesOf labelled
  exact {
    known := fun label => by
      rw [SortedSet.mem_ofList, KeyMap.mem_keys, KeyMap.contains_iff]
      rfl
    labelled := labelled
    ends := ends
    acyclic := acyclic
    declared := fun e member => (mem_edges e).mp member
    tight := tight_empty
    replaced := fun label name id found => by cases found
    accounted := fun label task name dependency found declared =>
      ⟨fun _ => rfl, fun _ => (mem_edges _).mpr ⟨task, found, declared⟩⟩ }

theorem ofTasks_external {tasks : List Task} {g : TaskGraph} (built : ofTasks tasks = .ok g) :
    g.external = .empty := by
  obtain ⟨_, -, built⟩ := bind_ok_iff.mp built
  obtain ⟨_, -, built⟩ := bind_ok_iff.mp built
  cases built
  rfl

/-! ### Parts of a graph -/

/-- `part` is `g` on the labels that satisfy `keep`. A kept label has an id for each
dependency that had one and for each that is not kept. -/
structure Keeps (keep : String → Prop) (g part : TaskGraph) : Prop where
  tasks : ∀ label task, part.get? label = some task ↔ keep label ∧ g.get? label = some task
  nodes : ∀ label, label ∈ part.graph.nodes ↔ keep label ∧ label ∈ g.graph.nodes
  edges : ∀ e, e ∈ part.graph.edges ↔ e ∈ g.graph.edges ∧ keep e.dependent ∧ keep e.dependency
  tight : Tight part.external
  ids : ∀ label name, (∃ id, idUnder part.external label name = some id) ↔
    keep label ∧ ((∃ id, idUnder g.external label name = some id) ∨
      ∃ dependency, (⟨label, dependency, name⟩ : Edge) ∈ g.graph.edges ∧ ¬ keep dependency)

theorem Keeps.sound {keep : String → Prop} {g part : TaskGraph} (keeps : Keeps keep g part)
    (sound : g.Sound) : part.Sound where
  known label := by
    rw [keeps.nodes, sound.known]
    simp only [keeps.tasks, exists_and_left]
  labelled label task found := sound.labelled label task ((keeps.tasks label task).mp found).2
  ends e member := by
    obtain ⟨old, dependent, dependency⟩ := (keeps.edges e).mp member
    obtain ⟨known, known'⟩ := sound.ends e old
    exact ⟨(keeps.nodes _).mpr ⟨dependent, known⟩, (keeps.nodes _).mpr ⟨dependency, known'⟩⟩
  acyclic := sound.acyclic.mono fun e member => ((keeps.edges e).mp member).1
  declared e member := by
    obtain ⟨old, dependent, -⟩ := (keeps.edges e).mp member
    obtain ⟨task, found, declared⟩ := sound.declared e old
    exact ⟨task, (keeps.tasks _ _).mpr ⟨dependent, found⟩, declared⟩
  tight := keeps.tight
  replaced label name id found := by
    obtain ⟨kept, before | ⟨dependency, member, -⟩⟩ := (keeps.ids label name).mp ⟨id, found⟩
    · obtain ⟨id, before⟩ := before
      obtain ⟨task, dependency, present, declared⟩ := sound.replaced label name id before
      exact ⟨task, dependency, (keeps.tasks _ _).mpr ⟨kept, present⟩, declared⟩
    · obtain ⟨task, present, declared⟩ := sound.declared _ member
      exact ⟨task, dependency, (keeps.tasks _ _).mpr ⟨kept, present⟩, declared⟩
  accounted label task name dependency found declared := by
    obtain ⟨kept, present⟩ := (keeps.tasks label task).mp found
    have before := sound.accounted label task name dependency present declared
    constructor
    · intro member
      obtain ⟨old, -, keptToo⟩ := (keeps.edges _).mp member
      refine Option.eq_none_iff_forall_ne_some.mpr fun id now => ?_
      obtain ⟨-, ⟨id, was⟩ | ⟨other, edge, gone⟩⟩ := (keeps.ids label name).mp ⟨id, now⟩
      · rw [before.mp old] at was
        cases was
      · exact gone (sound.edge_unique old edge ▸ keptToo)
    · intro none
      have noId (h : (∃ id, idUnder g.external label name = some id) ∨
          ∃ dependency, (⟨label, dependency, name⟩ : Edge) ∈ g.graph.edges ∧ ¬ keep dependency) :
          False := by
        obtain ⟨id, some⟩ := (keeps.ids label name).mpr ⟨kept, h⟩
        rw [none] at some
        cases some
      have old := before.mpr (Option.eq_none_iff_forall_ne_some.mpr fun id was =>
        noId (.inl ⟨id, was⟩))
      refine (keeps.edges _).mpr ⟨old, kept, ?_⟩
      by_contra gone
      exact noId (.inr ⟨dependency, old, gone⟩)

/-- A subgraph is the part of the graph on its own labels. -/
theorem subgraph_keeps {g part : TaskGraph} {labels : SortedSet String} (sound : g.Sound)
    (cut : g.subgraph labels = .ok part) : Keeps (· ∈ part.graph.nodes) g part := by
  obtain ⟨graph, closure, cut⟩ := bind_ok_iff.mp cut
  cases cut
  obtain ⟨s, rfl, inside, closed⟩ := Graph.closure_ok sound.ends closure
  have contains (label : String) : (g.graph.restrict s).contains label = true ↔ label ∈ s :=
    Graph.contains_iff
  change Keeps (· ∈ s) g _
  exact {
    tasks := fun label task => by
      rw [TaskGraph.get?, KeyMap.get?_filter_keys]
      simp [contains, TaskGraph.get?]
    nodes := fun label => ⟨fun member => ⟨member, inside label member⟩, And.left⟩
    edges := fun e => by simp [Graph.restrict]
    tight := tight_filter sound.tight _
    ids := fun label name => by
      -- a label of the part has all it depends on there, so no edge leads out of it
      have stays : label ∈ s → ∀ dependency,
          (⟨label, dependency, name⟩ : Edge) ∈ g.graph.edges → dependency ∈ s :=
        fun member dependency edge => closed _ _ ⟨name, edge⟩ member
      rw [idUnder_filter]
      by_cases member : label ∈ s
      · simp only [contains, member, if_true, true_and]
        refine ⟨.inl, fun h => h.resolve_right ?_⟩
        rintro ⟨dependency, edge, gone⟩
        exact gone (stays member dependency edge)
      · simp [contains, member] }

theorem subgraph_sound {g part : TaskGraph} {labels : SortedSet String} (sound : g.Sound)
    (cut : g.subgraph labels = .ok part) : part.Sound := (subgraph_keeps sound cut).sound sound

theorem get?_subgraph {g part : TaskGraph} {labels : SortedSet String}
    (cut : g.subgraph labels = .ok part) {label : String} {task : Task}
    (found : part.get? label = some task) : g.get? label = some task := by
  obtain ⟨graph, -, cut⟩ := bind_ok_iff.mp cut
  cases cut
  rw [get?, KeyMap.get?_filter_keys] at found
  split at found
  · exact found
  · cases found

theorem subgraph_external {g part : TaskGraph} {labels : SortedSet String}
    (cut : g.subgraph labels = .ok part) (without : g.external = .empty) : part.external = .empty := by
  obtain ⟨graph, -, cut⟩ := bind_ok_iff.mp cut
  cases cut
  rw [without]
  rfl

end TaskGraph

end TaskPlan
