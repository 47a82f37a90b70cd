import TaskPlan.Generation.Basic
import TaskPlan.Proofs.Json.Fields
import TaskPlan.Proofs.Optimize.Decisions
import TaskPlan.Proofs.Reference.Placeholder

/-!
# Submitted tasks

A generation submits the tasks that its optimization keeps, each under its own id and
with the ids of all dependencies that it declares (`generate_submits`). No two of them
share an id as long as ids are counted, and a dependency that is no longer in the graph
has been replaced, as no kept task depends on a removed one.
-/

namespace TaskPlan

/-- Counted ids of a source that has given out some of them before. -/
def TaskIds.sequentialFrom (beginning : String) (given : Nat) : TaskIds := fun position =>
  sequential beginning (given + position)

theorem TaskIds.sequentialFrom_distinct (beginning : String) (given : Nat) :
    (sequentialFrom beginning given).Distinct := by
  intro i j a b same
  exact Nat.add_left_cancel (sequential_distinct beginning _ _ a b same)

/-- A task that is submitted for a node. -/
structure SubmittableTask.Completes (out : GeneratedGraph) (node : Task) (task : SubmittableTask) :
    Prop where
  names : task.dependencies.keys = node.dependencies.keys
  /-- an id is that of another submitted task, or of one that replaces the dependency -/
  accounted : ∀ name id, task.dependencies.get? name = some id →
    ∃ dependency, node.dependencies.get? name = some dependency ∧
      ((∃ other, out.tasks.get? id = some other ∧ other.label = dependency ∧
          other.label ≠ task.label) ∨
        out.optimized.decisions.get? dependency = some (.replaced id))
  listed : ∃ ids : List String, ids.Pairwise (fun a b => compare a b = .lt) ∧
    (∀ id, id ∈ ids ↔ ∃ name, task.dependencies.get? name = some id) ∧
    task.definition.get? "dependencies" = some (.ofStrings ids)
  resolved : ∃ fields, task.definition = .obj fields ∧
    (∀ placeholder : Placeholder, ¬ placeholder.Marks (.obj fields)) ∧
    ∀ entry ∈ fields, entry.1 ≠ "payload" → Placeholder.Free Placeholder.all entry.2

/-- The submitted tasks are those that the optimization keeps, under the ids of their labels. -/
structure GeneratedGraph.Submits (out : GeneratedGraph) : Prop where
  decided : out.optimized.decisions.keys = out.target.labels
  labels : Set.BijOn SubmittableTask.label {task | ∃ id, out.tasks.get? id = some task}
    {label | out.optimized.decisions.get? label = some .keep}
  stored : ∀ id task, out.tasks.get? id = some task →
    task.taskId = id ∧ out.optimized.taskIds.get? task.label = some id
  completed : ∀ id task, out.tasks.get? id = some task →
    ∃ node, out.optimized.graph.get? task.label = some node ∧
      out.full.get? task.label = some node ∧ task.Completes out node

/-! ### Definitions -/

theorem Placeholder.free_ofStrings {kinds : List Placeholder} (items : List String) :
    Free kinds (.ofStrings items) := by
  refine free_arr.mpr fun item member => ?_
  obtain ⟨s, -, rfl⟩ := List.mem_map.mp member
  exact free_str s

/-- The entries of a definition with those that it is completed with. -/
def completed (fields : Fields) (payload : Json) (ids : List String) : Fields :=
  Fields.insert (Fields.insert fields "payload" payload) "dependencies" (.ofStrings ids)

section Completed

variable {fields : Fields} {payload : Json} {ids : List String}

theorem get?_completed :
    (completed fields payload ids).get? "dependencies" = some (.ofStrings ids) :=
  (Fields.get?_insert _ _ _ _).trans (if_pos rfl)

theorem completed_plain (placeholder : Placeholder) :
    ¬ placeholder.Marks (.obj (completed fields payload ids)) := by
  have contains : (completed fields payload ids).contains "dependencies" = true := by
    rw [Fields.contains, get?_completed]
    rfl
  exact Placeholder.not_marks_of_contains contains (by cases placeholder <;> decide)

/-- But for the payload a definition stays free of placeholders. -/
theorem completed_free (free : Placeholder.Free Placeholder.all (.obj fields)) {entry : String × Json}
    (member : entry ∈ completed fields payload ids) (other : entry.1 ≠ "payload") :
    Placeholder.Free Placeholder.all entry.2 := by
  rcases Fields.mem_insert member with rfl | member
  · exact Placeholder.free_ofStrings ids
  rcases Fields.mem_insert member with rfl | member
  · exact absurd rfl other
  · exact (Placeholder.free_obj.mp free).2 entry member

end Completed

namespace Generator

open Optimize

variable {g : Generator} {index : Index} {optimized : OptimizedGraph}

theorem buildPayload_gives {builders : PayloadBuilders} {worker : Worker} {context : PayloadContext}
    {definition : Json} (h : buildPayload builders worker context = .ok definition) :
    ∃ fields payload, context.definition = .obj fields ∧
      definition = .obj (Fields.insert fields "payload" payload) := by
  rw [buildPayload] at h
  split at h
  · cases h
  obtain ⟨payload, -, h⟩ := bind_ok_iff.mp h
  split at h
  · rename_i fields same
    cases h
    exact ⟨fields, payload, same, rfl⟩
  · cases h

theorem submittable_gives {task : Task} {done : SubmittableTask}
    (h : g.submittable optimized task = .ok done) :
    done.label = task.label ∧ optimized.taskIds.get? task.label = some done.taskId ∧
      optimized.dependencyIds task.label = .ok done.dependencies ∧
      ∃ fields payload, Placeholder.Free Placeholder.all (.obj fields) ∧ done.definition =
        .obj (completed fields payload (SortedSet.ofList done.dependencies.values).toList) := by
  rw [submittable] at h
  split at h
  · cases h
  rename_i taskId final
  obtain ⟨dependencies, given, h⟩ := bind_ok_iff.mp h
  obtain ⟨resolved, resolves, h⟩ := bind_ok_iff.mp h
  obtain ⟨worker, -, h⟩ := bind_ok_iff.mp h
  obtain ⟨definition, built, h⟩ := bind_ok_iff.mp h
  obtain ⟨fields, payload, rfl, rfl⟩ := buildPayload_gives built
  cases h
  exact ⟨rfl, final, given, fields, payload, Resolver.resolve_free resolves, rfl⟩

/-! ### The stages of a generation -/

theorem generate_gives {out : GeneratedGraph} (ran : (g.generate.run index .empty).1 = .ok out) :
    g.fullGraph = .ok out.full ∧ g.targetGraph out.full = .ok out.target ∧
      Lookup.Gives index (optimize g.registry g.taskIds g.run.optimize out.target) out.optimized ∧
      ∃ tasks, out.optimized.graph.postorder.mapM (g.submittable out.optimized) = .ok tasks ∧
        out.tasks = .ofList (tasks.map fun task => (task.taskId, task)) := by
  obtain ⟨full, made, h⟩ := Lookup.gives_bind ⟨.empty, ran⟩
  obtain ⟨target, cut, h⟩ := Lookup.gives_bind h
  obtain ⟨optimized, reduced, h⟩ := Lookup.gives_bind h
  obtain ⟨_, -, h⟩ := bind_ok_iff.mp (Lookup.gives_ofResult.mp h)
  obtain ⟨tasks, done, h⟩ := bind_ok_iff.mp h
  cases h
  exact ⟨Lookup.gives_ofResult.mp made, Lookup.gives_ofResult.mp cut, reduced, tasks, done, rfl⟩

theorem fullGraph_built {full : TaskGraph} (made : g.fullGraph = .ok full) :
    ∃ tasks, TaskGraph.ofTasks tasks = .ok full := by
  obtain ⟨kinds, -, made⟩ := bind_ok_iff.mp made
  obtain ⟨tasks, -, made⟩ := bind_ok_iff.mp made
  obtain ⟨graph, built, made⟩ := bind_ok_iff.mp made
  obtain ⟨_, -, made⟩ := bind_ok_iff.mp made
  cases made
  exact ⟨_, built⟩

theorem targetGraph_cut {full target : TaskGraph} (cut : g.targetGraph full = .ok target) :
    ∃ labels, full.subgraph labels = .ok target := by
  obtain ⟨graph, cut, h⟩ := bind_ok_iff.mp cut
  obtain ⟨_, -, h⟩ := bind_ok_iff.mp h
  cases h
  exact ⟨_, cut⟩

/-! ### The tasks of the surviving nodes -/

section Submitted

variable {ids : TaskIds} {target : TaskGraph} {decisions : String → Decision}
  {tasks : List SubmittableTask}

variable (sound : target.Sound) (consistent : Consistent target decisions) (distinct : ids.Distinct)

include sound in
theorem keep_of_survives {label : String} {node : Task}
    (found : (settled ids target decisions).graph.get? label = some node) :
    decisions label = .keep ∧ label ∈ target.graph.nodes := by
  obtain ⟨keep, present⟩ := TaskGraph.get?_rebuilt.mp found
  exact ⟨keep, (sound.known _).mpr ⟨node, present⟩⟩

variable (done : (settled ids target decisions).graph.postorder.mapM
    (g.submittable (settled ids target decisions)) = .ok tasks)
include sound consistent distinct done

/-- No two tasks have one id. -/
theorem nodup_taskIds : (tasks.map SubmittableTask.taskId).Nodup := by
  have after : (settled ids target decisions).graph.Sound := consistent.rebuilt_sound sound
  have ids_eq : tasks.map (fun task => some task.taskId) =
      (settled ids target decisions).graph.postorder.map fun node =>
        (settled ids target decisions).taskIds.get? node.label :=
    map_mapM_ok (fun node task made => (submittable_gives made).2.1.symm) done
  refine List.Nodup.of_map some ?_
  rw [List.map_map]
  change (tasks.map fun task => some task.taskId).Nodup
  rw [ids_eq]
  refine List.Nodup.map_on (fun a inA b inB same => ?_) after.nodup_tasks
  have foundA := after.mem_tasks.mp inA
  have foundB := after.mem_tasks.mp inB
  have label := taskIds_kept_inj sound distinct (keep_of_survives sound foundA)
    (keep_of_survives sound foundB) same
  rw [label] at foundA
  exact Option.some.inj (foundA.symm.trans foundB)

/-- The stored tasks are those that are made of the surviving nodes. -/
theorem stored_iff {id : String} {task : SubmittableTask} :
    (KeyMap.ofList (tasks.map fun task => (task.taskId, task))).get? id = some task ↔
      task.taskId = id ∧ ∃ node, (settled ids target decisions).graph.get? task.label = some node ∧
        g.submittable (settled ids target decisions) node = .ok task := by
  have after : (settled ids target decisions).graph.Sound := consistent.rebuilt_sound sound
  have nodup := nodup_taskIds sound consistent distinct done
  rw [KeyMap.get?_ofList_iff (by rwa [List.map_map]), List.mem_map]
  constructor
  · rintro ⟨_, member, same⟩
    cases same
    obtain ⟨node, inside, made⟩ := (mem_mapM_ok done).mp member
    refine ⟨rfl, node, ?_, made⟩
    rw [(submittable_gives made).1]
    exact after.mem_tasks.mp inside
  · rintro ⟨rfl, node, found, made⟩
    rw [(submittable_gives made).1] at found
    exact ⟨task, (mem_mapM_ok done).mpr ⟨node, after.mem_tasks.mpr found, made⟩, rfl⟩

theorem exists_stored {label : String}
    (kept : (settled ids target decisions).decisions.get? label = some .keep) :
    ∃ id task, (KeyMap.ofList (tasks.map fun task => (task.taskId, task))).get? id = some task ∧
      task.label = label := by
  have after : (settled ids target decisions).graph.Sound := consistent.rebuilt_sound sound
  obtain ⟨keep, present⟩ := (keep_settled_iff sound label).mp kept
  obtain ⟨node, found⟩ := (sound.known label).mp present
  have named := sound.labelled label node found
  have survives : (settled ids target decisions).graph.get? node.label = some node :=
    TaskGraph.get?_rebuilt.mpr (named ▸ ⟨keep, found⟩)
  obtain ⟨task, member, made⟩ := exists_mapM_ok done (after.mem_tasks.mpr survives)
  have same := (submittable_gives made).1
  refine ⟨task.taskId, task, (stored_iff sound consistent distinct done).mpr
    ⟨rfl, node, ?_, made⟩, same.trans named⟩
  rw [same]
  exact survives

/-- The id of a kept dependency is that of another stored task. -/
theorem stored_dependency {label name dependency id : String}
    (edge : (⟨label, dependency, name⟩ : Edge) ∈ target.graph.edges)
    (kept : decisions dependency = .keep)
    (final : (settled ids target decisions).taskIds.get? dependency = some id) :
    ∃ other, (KeyMap.ofList (tasks.map fun task => (task.taskId, task))).get? id = some other ∧
      other.label = dependency ∧ other.label ≠ label := by
  obtain ⟨otherId, other, found, named⟩ := exists_stored sound consistent distinct done
    ((keep_settled_iff sound dependency).mpr ⟨kept, (sound.ends _ edge).2⟩)
  obtain ⟨same, node, -, made⟩ := (stored_iff sound consistent distinct done).mp found
  obtain ⟨ofNode, given, -⟩ := submittable_gives made
  rw [← ofNode, named, final, same] at given
  cases given
  refine ⟨other, found, named, ?_⟩
  rw [named]
  rintro rfl
  exact sound.acyclic.irrefl dependency ⟨name, edge⟩

/-- A task that is made of a surviving node completes it. -/
theorem completes (without : target.external = .empty) {out : GeneratedGraph}
    (optimized : out.optimized = settled ids target decisions)
    (stored : out.tasks = .ofList (tasks.map fun task => (task.taskId, task)))
    {node : Task} {task : SubmittableTask}
    (survives : (settled ids target decisions).graph.get? task.label = some node)
    (made : g.submittable (settled ids target decisions) node = .ok task) :
    task.Completes out node := by
  obtain ⟨same, -, given, fields, payload, free, definition⟩ := submittable_gives made
  obtain ⟨_, gives, declares, edges, -⟩ := dependencyIds_settled sound consistent survives
  rw [same, given] at gives
  cases gives
  refine ⟨?_, ?_, ?_, ?_⟩
  · apply KeyMap.keys_eq
    intro name
    rw [KeyMap.mem_keys, KeyMap.mem_keys, declares]
  · intro name id under
    have declared : node.dependencies.contains name = true :=
      declares name ▸ KeyMap.contains_iff.mpr ⟨id, under⟩
    obtain ⟨dependency, declared⟩ := KeyMap.contains_iff.mp declared
    obtain ⟨keep, present⟩ := TaskGraph.get?_rebuilt.mp survives
    have edge := sound.edge_of_declared without present declared
    rw [edges name dependency edge] at under
    refine ⟨dependency, declared, ?_⟩
    rw [optimized, stored]
    cases decided : decisions dependency with
    | keep => exact .inl (stored_dependency sound consistent distinct done edge decided under)
    | replaced other =>
      rw [get?_taskIds_replaced sound consistent decided] at under
      cases under
      exact .inr ((decisions_settled_iff sound consistent (by simp)).mpr decided)
    | removed =>
      rw [consistent.closed _ dependency ⟨name, edge⟩ decided] at keep
      cases keep
  · refine ⟨_, SortedSet.ascending _, fun id => ?_, by rw [definition]; exact get?_completed⟩
    rw [SortedSet.mem_toList, SortedSet.mem_ofList, KeyMap.mem_values]
  · exact ⟨_, definition, completed_plain, fun entry member other => completed_free free member other⟩

end Submitted

/-- A generation with counted ids submits one task for each label that its optimization
keeps, under the id of the label. It has an id for each dependency that its node declares, of
another submitted task or of one that replaces the dependency, lists these ids, and has no
placeholder left but in its payload. -/
theorem generate_submits {beginning : String} {given : Nat}
    (counted : g.taskIds = .sequentialFrom beginning given) {out : GeneratedGraph}
    (ran : (g.generate.run index .empty).1 = .ok out) : out.Submits := by
  obtain ⟨made, cut, reduced, tasks, done, stored⟩ := generate_gives ran
  obtain ⟨_, built⟩ := fullGraph_built made
  obtain ⟨labels, cut⟩ := targetGraph_cut cut
  have sound := TaskGraph.subgraph_sound (TaskGraph.ofTasks_sound built) cut
  have without := TaskGraph.subgraph_external cut (TaskGraph.ofTasks_external built)
  have distinct : g.taskIds.Distinct := counted ▸ TaskIds.sequentialFrom_distinct beginning given
  obtain ⟨removed, replaced, removals, replacements, optimized⟩ := optimize_gives sound reduced
  have consistent := decisionOf_consistent sound removals replacements
  rw [optimized] at done
  have stored_gives {id : String} {task : SubmittableTask} (found : out.tasks.get? id = some task) :
      task.taskId = id ∧ ∃ node, out.optimized.graph.get? task.label = some node ∧
        g.submittable out.optimized node = .ok task := by
    rw [stored, stored_iff sound consistent distinct done] at found
    rwa [optimized]
  have final {id : String} {task : SubmittableTask} (found : out.tasks.get? id = some task) :
      out.optimized.taskIds.get? task.label = some id := by
    obtain ⟨rfl, node, -, made⟩ := stored_gives found
    obtain ⟨same, final, -⟩ := submittable_gives made
    rwa [same]
  refine ⟨optimized ▸ keys_decisions_settled sound, ⟨?_, ?_, ?_⟩,
    fun id task found => ⟨(stored_gives found).1, final found⟩, fun id task found => ?_⟩
  · rintro task ⟨id, found⟩
    obtain ⟨-, node, survives, -⟩ := stored_gives found
    rw [optimized] at survives
    rw [Set.mem_ofPred_eq, optimized, keep_settled_iff sound]
    exact keep_of_survives sound survives
  · rintro a ⟨id, found⟩ b ⟨other, foundToo⟩ same
    have one := (final found).symm.trans (same ▸ final foundToo)
    cases one
    exact Option.some.inj (found.symm.trans foundToo)
  · intro label kept
    rw [Set.mem_ofPred_eq, optimized] at kept
    obtain ⟨id, task, found, same⟩ := exists_stored sound consistent distinct done kept
    exact ⟨task, ⟨id, stored ▸ found⟩, same⟩
  · obtain ⟨-, node, survives, made⟩ := stored_gives found
    rw [optimized] at survives made
    refine ⟨node, optimized ▸ survives,
      TaskGraph.get?_subgraph cut (TaskGraph.get?_rebuilt.mp survives).2, ?_⟩
    exact completes sound consistent distinct done without optimized stored survives made

/-- A job that goes through no stage. -/
def readyJob (label : String) (dependencies optimization definition : Fields) : Job :=
  ⟨[("label", .str label), ("kind", .str "run"), ("dependencies", .obj dependencies),
    ("optimization", if optimization.isEmpty then .null else .obj optimization),
    ("worker", .obj [("implementation", .str "always-optimized")]), ("task", .obj definition)]⟩

/-- An image that is found in the index, what is built with it, and a test of that. -/
def imageGenerator : Generator where
  graphConfig := .ofDomain "ci" "https://ci.example.net"
  run := ⟨⟨0, 0⟩, .empty⟩
  kinds := [{
    name := "run", path := "", config := [], dependencies := [], pipeline := []
    jobs := [
      readyJob "image" [] [("index-search", .ofStrings ["images.latest"])] [],
      readyJob "build" [("base", .str "image")] []
        [("created", .obj [("relative-datestamp", .str "1 day")])],
      readyJob "test" [("base", .str "image"), ("binary", .str "build")] []
        [("notes", .arr [.obj [("task-reference", .str "<binary> for <self>")]])]] }]
  registry := .standard
  taskIds := .sequentialFrom "t" 3
  checks := []
  builders := .standard
  isTarget := isForProject

theorem generate_submits_image :
    ∃ out : GeneratedGraph, out.tasks.keys = ["t3", "t4"] ∧
      (out.tasks.get? "t4").map SubmittableTask.definition =
        some (.obj [("notes", .arr [.str "t3 for t4"]), ("payload", .obj []),
          ("dependencies", .ofStrings ["T", "t3"])]) ∧ out.Submits := by
  obtain ⟨out, ran, h⟩ := exists_ok
    (x := (imageGenerator.generate.run TaskGraph.imageIndex .empty).1)
    (p := fun out => out.tasks.keys = ["t3", "t4"] ∧
      (out.tasks.get? "t4").map SubmittableTask.definition =
        some (.obj [("notes", .arr [.str "t3 for t4"]), ("payload", .obj []),
          ("dependencies", .ofStrings ["T", "t3"])]))
    (by decide +kernel)
  obtain ⟨keys, definition⟩ := of_decide_eq_true h
  exact ⟨out, keys, definition, generate_submits rfl ran⟩

end Generator

end TaskPlan
