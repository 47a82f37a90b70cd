import TaskPlan.Proofs.Optimize.Reachable
import TaskPlan.Verify.Standard

/-!
# Tiers

The check for tiers compares a task with each of its dependencies. As tiers are ordered,
this is enough for all that a task depends on through others that are no dummies: none of
them has a higher tier (`dependencyTiers_orders_paths`).
-/

namespace TaskPlan

namespace Check

variable {graph : TaskGraph} {label dependency : String}

/-! ### Ranks -/

/-- The highest tier stands for one that is not known. -/
def highest : Nat := UInt64.size - 1

def rank (task : Task) : Nat :=
  (((treeherder? task).bind (·.get? "tier")).bind Json.word?).elim highest UInt64.toNat

def rankOf (graph : TaskGraph) (label : String) : Nat := (graph.get? label).elim highest rank

theorem rank_le_highest (task : Task) : rank task ≤ highest := by
  rw [rank]
  cases ((treeherder? task).bind (·.get? "tier")).bind Json.word? with
  | none => exact Nat.le_refl _
  | some word => exact Nat.le_sub_one_of_lt word.toNat_lt

theorem tier?_eq (task : Task) : tier? task = if rank task < highest then some (rank task) else none := by
  rw [tier?, rank]
  cases ((treeherder? task).bind (·.get? "tier")).bind Json.word? with
  | none => simp
  | some word =>
    change (some word.toNat).filter (fun tier => decide (tier < highest)) = _
    by_cases known : word.toNat < highest <;> simp [Option.filter, known]

theorem tierOf_eq (graph : TaskGraph) (label : String) :
    tierOf graph label = if rankOf graph label < highest then some (rankOf graph label) else none := by
  rw [tierOf, rankOf]
  cases graph.get? label with
  | none => simp
  | some task => exact tier?_eq task

theorem rankOf_le_highest (graph : TaskGraph) (label : String) : rankOf graph label ≤ highest := by
  rw [rankOf]
  cases graph.get? label with
  | none => exact Nat.le_refl _
  | some task => exact rank_le_highest task

theorem tierBelow_iff : tierBelow (tierOf graph label) (tierOf graph dependency) = true ↔
    rankOf graph label < rankOf graph dependency := by
  have bound := rankOf_le_highest graph label
  have bound' := rankOf_le_highest graph dependency
  rw [tierOf_eq, tierOf_eq]
  by_cases known : rankOf graph label < highest <;>
    by_cases known' : rankOf graph dependency < highest <;>
    simp only [known, known', if_true, if_false, tierBelow, decide_eq_true_eq, Bool.false_eq_true,
      true_iff, false_iff] <;> omega

/-! ### Dummies -/

/-- The kind of the task names a dummy. -/
def Dummy (graph : TaskGraph) (label : String) : Prop :=
  ∃ task, graph.get? label = some task ∧ "dummy".toList <:+: task.kind.toList

theorem isDummy_iff : isDummy graph label = true ↔ Dummy graph label := by
  rw [isDummy, Dummy]
  cases graph.get? label with
  | none => simp
  | some task => simp [Text.contains_iff]

/-! ### Single dependencies -/

/-- A dependency that a task must not have. -/
def Outranked (graph : TaskGraph) (label dependency : String) : Prop :=
  graph.graph.DependsOn label dependency ∧ ¬ Dummy graph dependency ∧
    rankOf graph label < rankOf graph dependency

theorem mem_dependencies_iff (sound : graph.Sound) :
    dependency ∈ (graph.dependencies label).values ↔ graph.graph.DependsOn label dependency := by
  rw [KeyMap.mem_values]
  exact exists_congr fun name => sound.get?_dependencies

theorem refused_iff : (!isDummy graph dependency &&
      tierBelow (tierOf graph label) (tierOf graph dependency)) = true ↔
    ¬ Dummy graph dependency ∧ rankOf graph label < rankOf graph dependency := by
  rw [Bool.and_eq_true, Bool.not_eq_true', ← Bool.not_eq_true, isDummy_iff, tierBelow_iff]

theorem tierFault?_eq_none_iff (sound : graph.Sound) :
    tierFault? graph label = none ↔ ∀ dependency, ¬ Outranked graph label dependency := by
  rw [tierFault?, List.findSome?_eq_none_iff]
  constructor
  · rintro fits dependency ⟨depends, refused⟩
    have fit := fits dependency ((mem_dependencies_iff sound).mpr depends)
    rw [if_pos (refused_iff.mpr refused)] at fit
    cases fit
  · intro none dependency member
    refine if_neg fun refused => none dependency ⟨?_, refused_iff.mp refused⟩
    exact (mem_dependencies_iff sound).mp member

theorem tierFault?_some (sound : graph.Sound) {fault : CheckFault}
    (found : tierFault? graph label = some fault) : ∃ dependency, Outranked graph label dependency ∧
      fault = .higherTier label (tierOf graph label) dependency (tierOf graph dependency) := by
  obtain ⟨dependency, member, here⟩ := List.exists_of_findSome?_eq_some found
  dsimp only at here
  split at here
  · rename_i refused
    cases here
    exact ⟨dependency, ⟨(mem_dependencies_iff sound).mp member, refused_iff.mp refused⟩, rfl⟩
  · cases here

/-! ### A run of the check -/

/-- Nothing is noted on the way to the whole graph. -/
theorem run_dependencyTiers (config : GraphConfig) (graph : TaskGraph) :
    dependencyTiers.run config graph = dependencyTiers.onGraph config graph .empty := by
  have noted (tasks : List Task) :
      tasks.foldlM (dependencyTiers.onTask config graph) .empty = .ok .empty := by
    induction tasks with
    | nil => rfl
    | cons task rest ih => exact ih
  rw [run, noted]
  rfl

theorem dependencyTiers_run_ok_iff (sound : graph.Sound) (config : GraphConfig) :
    dependencyTiers.run config graph = .ok () ↔
      ∀ label dependency, ¬ Outranked graph label dependency := by
  have none_iff : graph.labels.findSome? (tierFault? graph) = none ↔
      ∀ label dependency, ¬ Outranked graph label dependency := by
    rw [List.findSome?_eq_none_iff]
    constructor
    · rintro fits label dependency ⟨depends, refused⟩
      have known : label ∈ graph.labels :=
        KeyMap.mem_keys_iff.mpr ((sound.known label).mp (depends.known sound.ends).1)
      exact (tierFault?_eq_none_iff sound).mp (fits label known) dependency ⟨depends, refused⟩
    · intro none label _
      exact (tierFault?_eq_none_iff sound).mpr (none label)
  rw [run_dependencyTiers, ← none_iff]
  simp only [dependencyTiers]
  cases graph.labels.findSome? (tierFault? graph) <;> simp

theorem dependencyTiers_run_error (sound : graph.Sound) {config : GraphConfig} {error : Error}
    (failed : dependencyTiers.run config graph = .error error) :
    ∃ label dependency, Outranked graph label dependency ∧ error = .check "dependency-tiers"
      (.higherTier label (tierOf graph label) dependency (tierOf graph dependency)) := by
  rw [run_dependencyTiers] at failed
  simp only [dependencyTiers] at failed
  split at failed
  · rename_i fault found
    cases failed
    obtain ⟨label, -, found⟩ := List.exists_of_findSome?_eq_some found
    obtain ⟨dependency, outranked, rfl⟩ := tierFault?_some sound found
    exact ⟨label, dependency, outranked, rfl⟩
  · cases failed

/-! ### Paths -/

/-- If no dependency is ranked above its dependent, none is along a path. -/
theorem rankOf_le_along (fits : ∀ label dependency, ¬ Outranked graph label dependency)
    {rest : List String} {first : String} (path : (first :: rest).IsChain graph.graph.DependsOn)
    (plain : ∀ label ∈ rest, ¬ Dummy graph label) :
    ∀ label ∈ rest, rankOf graph label ≤ rankOf graph first := by
  induction rest generalizing first with
  | nil => exact List.forall_mem_nil _
  | cons next rest ih =>
    obtain ⟨depends, path⟩ := List.isChain_cons_cons.mp path
    obtain ⟨here, later⟩ := List.forall_mem_cons.mp plain
    have step : rankOf graph next ≤ rankOf graph first :=
      Nat.le_of_not_lt fun above => fits first next ⟨depends, here, above⟩
    refine List.forall_mem_cons.mpr ⟨step, fun label member => ?_⟩
    exact (ih path later label member).trans step

/-- The check passes exactly if on each path of dependencies that goes on over tasks that are no
dummies none of these has a higher tier than the first task, where a task whose tier is not known
has the highest. If it fails, it names a task and a dependency of it that is no dummy and has a
higher tier. -/
theorem dependencyTiers_orders_paths (reachable : graph.Reachable) (config : GraphConfig) :
    (dependencyTiers.run config graph = .ok () ↔
      ∀ first rest, (first :: rest).IsChain graph.graph.DependsOn →
        (∀ label ∈ rest, ¬ Dummy graph label) →
        ∀ label ∈ rest, rankOf graph label ≤ rankOf graph first) ∧
    ∀ error, dependencyTiers.run config graph = .error error →
      ∃ label dependency task other, graph.get? label = some task ∧
        graph.get? dependency = some other ∧ graph.graph.DependsOn label dependency ∧
        ¬ "dummy".toList <:+: other.kind.toList ∧ rank task < rank other ∧
        error = .check "dependency-tiers" (.higherTier label (tier? task) dependency (tier? other)) := by
  have sound := reachable.sound
  constructor
  · rw [dependencyTiers_run_ok_iff sound]
    constructor
    · intro fits first rest path plain
      exact rankOf_le_along fits path plain
    · rintro ordered label dependency ⟨depends, plain, above⟩
      have path : [label, dependency].IsChain graph.graph.DependsOn :=
        List.isChain_cons_cons.mpr ⟨depends, .singleton _⟩
      exact Nat.not_le_of_lt above
        (ordered label [dependency] path (by simpa using plain) dependency List.mem_cons_self)
  · intro error failed
    obtain ⟨label, dependency, ⟨depends, plain, above⟩, same⟩ := dependencyTiers_run_error sound failed
    obtain ⟨task, found⟩ := (sound.known label).mp (depends.known sound.ends).1
    obtain ⟨other, found'⟩ := (sound.known dependency).mp (depends.known sound.ends).2
    simp only [rankOf, tierOf, found, found', Option.elim_some, Option.bind_some] at above same
    exact ⟨label, dependency, task, other, found, found', depends,
      fun dummy => plain ⟨other, found', dummy⟩, above, same⟩

def tiered (label kind : String) (tier : Json) (dependencies : List String) : Task where
  label := label
  kind := kind
  attributes := .empty
  dependencies := .ofList (dependencies.map fun dependency => (dependency, dependency))
  optimization := none
  worker := .alwaysOptimized
  definition := .obj [("extra", .obj [("treeherder", .obj [("tier", tier)])])]

/-- A release whose build needs a download, for which no tier is known. -/
def release : List Task :=
  [tiered "download" "dummy-fetch" .null [], tiered "build" "build" (.ofWord 1) ["download"],
    tiered "test" "test" (.ofWord 2) ["build"], tiered "sign" "signing" (.ofWord 2) ["test"]]

theorem dependencyTiers_orders_release : ∃ graph : TaskGraph, graph.Reachable ∧
    ["sign", "test", "build"].IsChain graph.graph.DependsOn ∧
    (∀ label ∈ ["test", "build"], ¬ Dummy graph label) ∧
    (∀ label ∈ ["test", "build"], rankOf graph label ≤ rankOf graph "sign") ∧
    ¬ rankOf graph "download" ≤ rankOf graph "build" ∧
    ∃ broken : TaskGraph, broken.Reachable ∧ ∃ label dependency task other,
      broken.get? label = some task ∧ broken.get? dependency = some other ∧
      broken.graph.DependsOn label dependency ∧ ¬ "dummy".toList <:+: other.kind.toList ∧
      rank task < rank other := by
  let config := GraphConfig.ofDomain "gecko" "https://ci.example.net"
  obtain ⟨graph, built, facts⟩ := exists_ok (x := TaskGraph.ofTasks release)
    (p := fun graph => dependencyTiers.run config graph = .ok () ∧
      (∀ label ∈ ["test", "build"], isDummy graph label = false) ∧
      "test" ∈ graph.graph.dependencies "sign" ∧ "build" ∈ graph.graph.dependencies "test" ∧
      ¬ rankOf graph "download" ≤ rankOf graph "build")
    (by decide +kernel)
  obtain ⟨passed, plain, test, build, unknown⟩ := of_decide_eq_true facts
  obtain ⟨broken, builtToo, facts⟩ := exists_ok
    (x := TaskGraph.ofTasks [tiered "build" "build" .null [], tiered "test" "test" (.ofWord 3) ["build"]])
    (p := fun graph => dependencyTiers.run config graph = .error (.check "dependency-tiers"
      (.higherTier "test" (some 3) "build" none)))
    (by decide +kernel)
  have failed := of_decide_eq_true facts
  have path : ["sign", "test", "build"].IsChain graph.graph.DependsOn := by
    simpa [Graph.mem_dependencies_iff] using And.intro test build
  have plain : ∀ label ∈ ["test", "build"], ¬ Dummy graph label := fun label member dummy => by
    simpa [plain label member] using isDummy_iff.mpr dummy
  have reached : graph.Reachable := .built built
  have reachedToo : broken.Reachable := .built builtToo
  refine ⟨graph, reached, path, plain, ?_, unknown, broken, reachedToo, ?_⟩
  · exact (dependencyTiers_orders_paths reached config).1.mp passed "sign" _ path plain
  · obtain ⟨label, dependency, task, other, found, found', depends, named, above, -⟩ :=
      (dependencyTiers_orders_paths reachedToo config).2 _ failed
    exact ⟨label, dependency, task, other, found, found', depends, named, above⟩

end Check

end TaskPlan
