import TaskPlan.Proofs.Verify.Repeats

/-!
# Routes of the index

The check for routes passes exactly if no route of the index stands twice in the lists of
all tasks, and else reports the first that does (`uniqueIndexRoutes_refuses_repeats`). What
else stands in the lists does not matter, nor what other checks have noted.
-/

namespace TaskPlan

namespace Check

variable {config : GraphConfig} {graph : TaskGraph}

/-- What a task lists as its routes. -/
def routeItems (task : Task) : List Json := ((task.definition.get? "routes").bind Json.arr?).getD []

def isIndexRoute (config : GraphConfig) : Json → Bool
  | .str route => (routeStart config).toList.isPrefixOf route.toList
  | _ => false

theorem map_indexRoutes (config : GraphConfig) (task : Task) :
    (indexRoutes config task).map Json.str = (routeItems task).filter (isIndexRoute config) := by
  rw [indexRoutes, routesOf, ← routeItems]
  induction routeItems task with
  | nil => rfl
  | cons item rest ih =>
    cases item with
    | str route =>
      have counts : isIndexRoute config (.str route) = Text.startsWith route (routeStart config) :=
        (Text.startsWith_eq route (routeStart config)).symm
      cases starts : Text.startsWith route (routeStart config) <;>
        simp [Json.str?, counts, starts, ih]
    | _ => exact ih

/-- A list in which what `p` holds of comes once at most. -/
theorem nodup_filter_iff {α : Type} [DecidableEq α] {p : α → Bool} {items : List α} :
    (items.filter p).Nodup ↔ ∀ item, p item = true → items.count item ≤ 1 := by
  rw [List.nodup_iff_count_le_one]
  refine forall_congr' fun item => ?_
  by_cases holds : p item = true
  · simp [List.count_filter holds, holds]
  · have absent : item ∉ items.filter p := fun member => holds (List.mem_filter.mp member).2
    simp [List.count_eq_zero_of_not_mem absent, holds]

theorem nodup_indexRoutes_iff : (graph.tasks.values.flatMap (indexRoutes config)).Nodup ↔
    ∀ route : String, (routeStart config).toList <+: route.toList →
      (graph.tasks.values.flatMap routeItems).count (.str route) ≤ 1 := by
  have injective : Function.Injective Json.str := fun _ _ same => Json.str.inj same
  rw [← List.nodup_map_iff injective, List.map_flatMap]
  simp only [map_indexRoutes, ← List.filter_flatMap, nodup_filter_iff]
  constructor
  · intro once route starts
    exact once (.str route) (List.isPrefixOf_iff_prefix.mpr starts)
  · intro once item counts
    cases item with
    | str route => exact once route (List.isPrefixOf_iff_prefix.mp counts)
    | _ => cases counts

/-- Two tasks with one label that list the same routes of the index. -/
def SameIndexRoutes (config : GraphConfig) (task other : Task) : Prop :=
  task.label = other.label ∧
    (routeItems task).filter (isIndexRoute config) = (routeItems other).filter (isIndexRoute config)

instance (task other : Task) : Decidable (SameIndexRoutes config task other) :=
  inferInstanceAs (Decidable (_ ∧ _))

theorem SameIndexRoutes.indexRoutes {task other : Task} (same : SameIndexRoutes config task other) :
    indexRoutes config task = indexRoutes config other := by
  have injective : Function.Injective Json.str := fun _ _ same => Json.str.inj same
  refine injective.list_map ?_
  rw [map_indexRoutes, map_indexRoutes, same.2]

theorem entries_congr {other : TaskGraph}
    (same : List.Forall₂ (SameIndexRoutes config) graph.tasks.values other.tasks.values) :
    entries (indexRoutes config) graph = entries (indexRoutes config) other := by
  rw [entries, entries]
  generalize graph.tasks.values = tasks at same
  generalize other.tasks.values = others at same
  induction same with
  | nil => rfl
  | cons here _ ih => rw [List.flatMap_cons, List.flatMap_cons, ih, here.indexRoutes, here.1]

/-- The check passes exactly if no route that starts as those of the index do stands twice in
the lists of all tasks, taken in the order of their labels. If it fails, it reports the first
such route that comes again, with the task where it does and the one where it was first. Items
that are no such routes make no difference, nor do the checks that are made before. -/
theorem uniqueIndexRoutes_refuses_repeats (config : GraphConfig) (graph : TaskGraph) :
    (uniqueIndexRoutes.run config graph = .ok () ↔
      ∀ route : String, (routeStart config).toList <+: route.toList →
        (graph.tasks.values.flatMap routeItems).count (.str route) ≤ 1) ∧
    (∀ error, uniqueIndexRoutes.run config graph = .error error ↔
      ∃ route label other, FirstRepeat (entries (indexRoutes config) graph) route label other ∧
        error = .check "unique-index-routes" (.sharedRoute label (.str other) route)) ∧
    (∀ task, (indexRoutes config task).map Json.str =
      (routeItems task).filter (isIndexRoute config)) ∧
    (∀ other : TaskGraph,
      List.Forall₂ (SameIndexRoutes config) graph.tasks.values other.tasks.values →
      uniqueIndexRoutes.run config graph = uniqueIndexRoutes.run config other) ∧
    ∀ (checks : Checks) (phase : Phase) (before after : List Check),
      checks.ofPhase phase = before ++ uniqueIndexRoutes :: after →
      (∀ check ∈ before, check.run config graph = .ok ()) →
      checks.run phase config graph = uniqueIndexRoutes.run config graph >>= fun _ =>
        after.forM fun check => check.run config graph := by
  refine ⟨?_, ?_, map_indexRoutes config, ?_, ?_⟩
  · rw [← nodup_indexRoutes_iff]
    exact unique_run_ok_iff _ _ _ config graph
  · exact unique_run_error_iff _ _ _ config graph
  · intro other same
    rw [uniqueIndexRoutes, run_unique, run_unique, entries_congr same]
  · intro checks phase before after split passed
    exact Checks.run_of_passed split passed

def latest : String := "index.gecko.v2.try.latest.firefox"

def routed (label : String) (routes : List Json) : Task :=
  ⟨label, "build", .empty, .empty, none, .alwaysOptimized, .obj [("routes", .arr routes)]⟩

def builds (linux mac : List Json) : TaskGraph where
  tasks := .ofList [("mac", routed "mac" mac), ("linux", routed "linux" linux)]
  graph := ⟨.ofList ["linux", "mac"], .empty⟩
  external := .empty

/-- Both builds notify the same people, which they may, and claim the same route. -/
def claimedTwice : TaskGraph :=
  builds [.str "notify.email", .str latest, .null] [.str latest, .str "notify.email"]

theorem uniqueIndexRoutes_refuses_claimedTwice :
    let config := GraphConfig.ofDomain "gecko" "https://ci.example.net"
    let error := Error.check "unique-index-routes" (.sharedRoute "mac" (.str "linux") latest)
    uniqueIndexRoutes.run config claimedTwice = .error error ∧
      uniqueIndexRoutes.run config (builds [.str latest] [.str latest]) = .error error ∧
      Checks.standard.run .full config claimedTwice = .error error := by
  intro config error
  obtain ⟨-, fails, -, quiet, isolated⟩ := uniqueIndexRoutes_refuses_repeats config claimedTwice
  have repeated : FirstRepeat (entries (indexRoutes config) claimedTwice) latest "mac" "linux" :=
    ⟨[(latest, "linux")], [], by decide +kernel, by decide, List.mem_cons_self⟩
  have failed : uniqueIndexRoutes.run config claimedTwice = .error error :=
    (fails error).mpr ⟨latest, "mac", "linux", repeated, rfl⟩
  refine ⟨failed, ?_, ?_⟩
  · rw [← failed]
    exact (quiet _ (by decide +kernel)).symm
  · have symbols : uniqueTreeherderSymbols.run config claimedTwice = .ok () := by decide +kernel
    rw [isolated .standard .full [uniqueTreeherderSymbols] [dependencyTiers] rfl (by simpa using symbols),
      failed]
    rfl

end Check

end TaskPlan
