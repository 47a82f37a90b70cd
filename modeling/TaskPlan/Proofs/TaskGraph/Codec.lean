import TaskPlan.Proofs.Optimize.Reachable
import TaskPlan.Proofs.Task.Codec

/-!
# Task graphs as data

What is written of a graph are its tasks with all dependencies that they declare, so that
a graph is read back if none of these has been replaced. A replaced dependency is no
label of the graph any more (`Reachable.detached`), and so a graph with one is refused
(`Reachable.decode_encode`).
-/

namespace TaskPlan

namespace TaskGraph

/-! ### Replaced dependencies -/

/-- No label of the graph is a dependency that is kept as an id. -/
def Detached (g : TaskGraph) : Prop :=
  ∀ label task name dependency, g.get? label = some task →
    task.dependencies.get? name = some dependency → dependency ∈ g.graph.nodes →
    idUnder g.external label name = none

theorem Keeps.detached {keep : String → Prop} {g part : TaskGraph} (keeps : Keeps keep g part)
    (sound : g.Sound) (detached : g.Detached) : part.Detached := by
  intro label task name dependency found declared known
  obtain ⟨-, present⟩ := (keeps.tasks label task).mp found
  obtain ⟨kept, inside⟩ := (keeps.nodes dependency).mp known
  refine Option.eq_none_iff_forall_ne_some.mpr fun id now => ?_
  obtain ⟨-, ⟨id, before⟩ | ⟨other, edge, gone⟩⟩ := (keeps.ids label name).mp ⟨id, now⟩
  · rw [detached label task name dependency present declared inside] at before
    cases before
  · obtain ⟨task', present', declared'⟩ := sound.declared _ edge
    cases present.symm.trans present'
    cases declared.symm.trans declared'
    exact gone kept

theorem Reachable.detached {g : TaskGraph} (reachable : g.Reachable) : g.Detached := by
  induction reachable with
  | built built =>
    intro label task name dependency _ _ _
    rw [ofTasks_external built]
    rfl
  | cut reached cut detached => exact (subgraph_keeps reached.sound cut).detached reached.sound detached
  | optimized reached ran detached =>
    obtain ⟨removed, replaced, removals, replacements, rfl⟩ := Optimize.optimize_gives reached.sound ⟨.empty, ran⟩
    have consistent := Optimize.decisionOf_consistent reached.sound removals replacements
    exact (rebuilt_keeps reached.sound consistent.closed).detached reached.sound detached

/-! ### Reading tasks -/

theorem collect_distinct {tasks : List Task} {done : KeyMap Task}
    (distinct : (tasks.map Task.label).Nodup) (fresh : ∀ task ∈ tasks, done.get? task.label = none) :
    collect tasks done = .ok (tasks.foldl (fun all task => all.insert task.label task) done) := by
  induction tasks generalizing done with
  | nil => rfl
  | cons task rest ih =>
    obtain ⟨other, distinct⟩ := List.nodup_cons.mp distinct
    obtain ⟨here, later⟩ := List.forall_mem_cons.mp fresh
    have absent : ¬ done.contains task.label = true := by simp [KeyMap.contains, here]
    rw [collect, if_neg absent, List.foldl_cons]
    refine ih distinct fun task' member => ?_
    have different : task.label ≠ task'.label := fun same =>
      other (same ▸ List.mem_map_of_mem member)
    rw [KeyMap.get?_insert, if_neg different]
    exact later task' member

/-- The graph with all edges that the tasks declare. -/
def declaredGraph (g : TaskGraph) : Graph :=
  ⟨g.graph.nodes, .ofList (g.tasks.values.flatMap declaredEdges)⟩

namespace Sound

variable {g : TaskGraph}

theorem label_of_mem (sound : g.Sound) {entry : String × Task} (member : entry ∈ g.tasks.toList) :
    entry.2.label = entry.1 :=
  sound.labelled entry.1 entry.2 (KeyMap.mem_toList_iff.mp member)

theorem collect_values (sound : g.Sound) : collect g.tasks.values .empty = .ok g.tasks := by
  have labels : g.tasks.values.map Task.label = g.tasks.keys := by
    rw [KeyMap.values, List.map_map]
    exact List.map_congr_left fun entry member => sound.label_of_mem member
  have entries : g.tasks.values.map (fun task => (task.label, task)) = g.tasks.toList := by
    rw [KeyMap.values, List.map_map]
    refine (List.map_congr_left fun entry member => ?_).trans (List.map_id _)
    exact Prod.ext (sound.label_of_mem member) rfl
  rw [collect_distinct (labels ▸ g.tasks.keys_nodup) (fun _ _ => rfl), Except.ok.injEq]
  have folded : g.tasks.values.foldl (fun all task => all.insert task.label task) .empty =
      KeyMap.ofList g.tasks.toList := by
    rw [← entries, KeyMap.ofList, List.foldl_map]
  rw [folded]
  exact KeyMap.ext_get? (KeyMap.get?_ofList_toList g.tasks)

theorem decodeEntries (sound : g.Sound) :
    (g.tasks.toList.map fun entry => (entry.1, entry.2.encode)).mapM decodeEntry =
      .ok g.tasks.values := by
  rw [mapM_ok_iff, KeyMap.values, List.forall₂_map_left_iff, List.forall₂_map_right_iff,
    List.forall₂_same]
  intro entry member
  have written : TaskGraph.labelled entry.1 entry.2.encode = entry.2.encode := rfl
  rw [decodeEntry, written, Task.decode?_encode]
  exact if_pos (sound.label_of_mem member)

/-- What is read is the graph of the same tasks with all edges that they declare. -/
theorem decode_written (sound : g.Sound) :
    decode g.encode = (Graph.ofParts g.declaredGraph.nodes g.declaredGraph.edges).map
      fun graph => ⟨g.tasks, graph, .empty⟩ := by
  have nodes : SortedSet.ofList g.tasks.keys = g.graph.nodes := by
    refine SortedSet.ext_mem fun label => ?_
    rw [SortedSet.mem_ofList, KeyMap.mem_keys_iff, sound.known]
    rfl
  rw [encode, Json.ofMap, decode, sound.decodeEntries]
  change ofTasks g.tasks.values = _
  rw [ofTasks, sound.collect_values]
  change (Graph.ofParts (.ofList g.tasks.keys) g.declaredGraph.edges >>= _) = _
  rw [nodes]
  rfl

theorem mem_declaredGraph (sound : g.Sound) {e : Edge} :
    e ∈ g.declaredGraph.edges ↔ ∃ task, g.get? e.dependent = some task ∧
      task.dependencies.get? e.name = some e.dependency :=
  mem_edgesOf sound.labelled e

theorem mem_labels (sound : g.Sound) {label : String} : label ∈ g.labels ↔ label ∈ g.graph.nodes := by
  rw [sound.known, labels, KeyMap.mem_keys_iff]
  rfl

/-- Without replaced dependencies the edges are all that the tasks declare. -/
theorem declaredGraph_eq (sound : g.Sound) (without : g.external = .empty) :
    g.declaredGraph = g.graph := by
  have edges : g.declaredGraph.edges = g.graph.edges := by
    refine SortedSet.ext_mem fun e => ?_
    rw [sound.mem_declaredGraph]
    refine ⟨?_, sound.declared e⟩
    rintro ⟨task, found, declared⟩
    exact sound.edge_of_declared without found declared
  exact congrArg (Graph.mk g.graph.nodes) edges

theorem external_eq_empty (sound : g.Sound)
    (without : ∀ label ∈ g.labels, g.externalOf label = .empty) : g.external = .empty := by
  refine ext_idUnder sound.tight tight_empty fun label name => ?_
  rw [← get?_externalOf]
  refine Option.eq_none_iff_forall_ne_some.mpr fun id found => ?_
  obtain ⟨task, -, present, -⟩ := sound.replaced label name id (get?_externalOf g label name ▸ found)
  have inside := sound.mem_labels.mpr ((sound.known label).mpr ⟨task, present⟩)
  rw [without label inside] at found
  cases found

end Sound

/-- A declared dependency that is no label of the graph is kept as an id. -/
theorem Sound.idUnder_of_gone {g : TaskGraph} (sound : g.Sound) {label name dependency : String}
    {task : Task} (found : g.get? label = some task)
    (declared : task.dependencies.get? name = some dependency) (gone : dependency ∉ g.graph.nodes) :
    ∃ id, idUnder g.external label name = some id := by
  refine Option.ne_none_iff_exists'.mp fun none => gone ?_
  have edge := (sound.accounted label task name dependency found declared).mpr none
  exact (sound.ends _ edge).2

/-- A reachable graph without replaced dependencies is read back as it was written. One with
a replaced dependency is refused for a dependency that is no label of it: what the graph
does not hold is never left out. -/
theorem Reachable.decode_encode {g : TaskGraph} (reachable : g.Reachable) :
    (∀ task, Task.decode? (Task.encode task) = some task) ∧
    ((∀ label ∈ g.labels, g.externalOf label = .empty) → decode g.encode = .ok g) ∧
    ∀ label ∈ g.labels, g.externalOf label ≠ .empty →
      ∃ dependent task name gone id, g.get? dependent = some task ∧
        task.dependencies.get? name = some gone ∧ (g.externalOf dependent).get? name = some id ∧
        gone ∉ g.labels ∧
        decode g.encode = .error (.graph (.unknownEndpoint gone name) [dependent, gone]) := by
  have sound := reachable.sound
  refine ⟨Task.decode?_encode, fun without => ?_, fun label _ replaced => ?_⟩
  · have without := sound.external_eq_empty without
    rw [sound.decode_written, sound.declaredGraph_eq without,
      Graph.ofParts_of_acyclic sound.ends sound.acyclic, ← without]
    rfl
  · -- the edge to a replaced dependency leads out of the graph
    have unknown : ¬ g.declaredGraph.EndsKnown := by
      intro ends
      refine replaced (KeyMap.eq_empty_iff.mpr fun name => ?_)
      refine Option.eq_none_iff_forall_ne_some.mpr fun id found => ?_
      rw [get?_externalOf] at found
      obtain ⟨task, dependency, present, declared⟩ := sound.replaced label name id found
      have edge : (⟨label, dependency, name⟩ : Edge) ∈ g.declaredGraph.edges :=
        sound.mem_declaredGraph.mpr ⟨task, present, declared⟩
      have inside := (ends _ edge).2
      rw [reachable.detached label task name dependency present declared inside] at found
      cases found
    obtain ⟨⟨dependent, dependency, name⟩, member, gone, out, which, refused⟩ :=
      Graph.ofParts_of_unknown unknown
    obtain ⟨task, present, declared⟩ := sound.mem_declaredGraph.mp member
    have known : dependent ∈ g.graph.nodes := (sound.known dependent).mpr ⟨task, present⟩
    rcases which with rfl | ⟨-, rfl⟩
    · exact absurd known out
    · obtain ⟨id, under⟩ := sound.idUnder_of_gone present declared out
      refine ⟨dependent, task, name, _, id, present, declared, ?_, ?_, ?_⟩
      · rw [get?_externalOf, under]
      · rwa [sound.mem_labels]
      · rw [sound.decode_written, refused]
        rfl

/-- With its image the use of it is read back; with the image replaced it is refused. -/
theorem Reachable.decode_encode_image :
    ∃ g rest : TaskGraph, g.Reachable ∧ rest.Reachable ∧ decode g.encode = .ok g ∧
      rest.labels = ["use"] ∧ ∃ dependent name gone, gone ∉ rest.labels ∧
        decode rest.encode = .error (.graph (.unknownEndpoint gone name) [dependent, gone]) := by
  obtain ⟨g, built, h⟩ := exists_ok (x := ofTasks imageAndUse)
    (p := fun g => decide (∀ label ∈ g.labels, g.externalOf label = .empty) &&
      ((optimize .standard (.sequential "t") .empty g).run imageIndex .empty).1.toOption.any
        fun out => out.graph.labels = ["use"] ∧ out.graph.externalOf "use" ≠ .empty)
    (by decide +kernel)
  obtain ⟨without, h⟩ := Bool.and_eq_true_iff.mp h
  obtain ⟨out, ran, h⟩ := exists_ok h
  obtain ⟨labels, replaced⟩ := of_decide_eq_true h
  have reachable := Reachable.built built
  have rest := reachable.optimized ran
  obtain ⟨-, read, -⟩ := reachable.decode_encode
  obtain ⟨-, -, refused⟩ := rest.decode_encode
  obtain ⟨dependent, _, name, gone, _, -, -, -, absent, refused⟩ :=
    refused "use" (by simp [labels]) replaced
  exact ⟨g, out.graph, reachable, rest, read (of_decide_eq_true without), labels, dependent, name, gone,
    absent, refused⟩

end TaskGraph

end TaskPlan
