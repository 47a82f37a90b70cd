import TaskPlan.Proofs.Generation.Submission
import TaskPlan.Proofs.Graph.Cycle
import TaskPlan.Proofs.Graph.Layers
import TaskPlan.Proofs.Pipeline.Streams

/-!
# Kinds in order

Which kinds there are decides in which order their stages are run, and not in which order
they have been added (`orderedKinds_perm`): each is run once, after those that it depends upon
(`orderedKinds_inTurn`), unless one before it fails. Kinds that cannot be ordered are refused
before any stage is run (`failsAtOnce_of_refused`).
-/

namespace TaskPlan

namespace Kind

/-- What the order of kinds goes by. -/
def declared (kind : Kind) : String × List String := (kind.name, kind.dependencies)

/-- The kind of name `a` depends upon the one of name `b`. -/
def Needs (kinds : List Kind) (a b : String) : Prop :=
  ∃ kind ∈ kinds, kind.name = a ∧ b ∈ kind.dependencies

/-- No two kinds share a name. -/
def Distinct (kinds : List Kind) : Prop := (kinds.map name).Nodup

instance (kinds : List Kind) : Decidable (Distinct kinds) := inferInstanceAs (Decidable (List.Nodup _))

theorem Distinct.keys {kinds : List Kind} (distinct : Distinct kinds) :
    ((kinds.map fun kind => (kind.name, kind)).map Prod.fst).Nodup := by
  rwa [List.map_map]

/-- What kinds depend upon is among them. -/
def Complete (kinds : List Kind) : Prop :=
  ∀ kind ∈ kinds, ∀ d ∈ kind.dependencies, ∃ other ∈ kinds, other.name = d

instance (kinds : List Kind) : Decidable (Complete kinds) :=
  inferInstanceAs (Decidable (∀ kind ∈ kinds, ∀ d ∈ kind.dependencies, ∃ other ∈ kinds, other.name = d))

/-- Each of the kinds once, after those that it depends upon. -/
structure InTurn (kinds order : List Kind) : Prop where
  each : order.Perm kinds
  distinct : Distinct order
  after : ∀ before kind later, order = before ++ kind :: later →
    ∀ d ∈ kind.dependencies, ∃ other ∈ before, other.name = d

end Kind

namespace Generator

open Kind

variable {kinds others order : List Kind}

/-! ### The graph of kinds -/

def kindGraph (kinds : List Kind) : Graph := ⟨.ofList (kinds.map Kind.name), kindEdges kinds⟩

def byName (kinds : List Kind) : KeyMap Kind := .ofList (kinds.map fun kind => (kind.name, kind))

theorem mem_kindEdges {e : Edge} : e ∈ kindEdges kinds ↔
    ∃ kind ∈ kinds, ∃ d ∈ kind.dependencies, ⟨kind.name, d, d⟩ = e := by
  simp [kindEdges]

theorem mem_kindGraph {name : String} :
    name ∈ (kindGraph kinds).nodes ↔ ∃ kind ∈ kinds, kind.name = name := by
  simp [kindGraph]

theorem dependsOn_kindGraph : (kindGraph kinds).DependsOn = Needs kinds := by
  funext a b
  refine propext ⟨?_, ?_⟩
  · rintro ⟨name, edge⟩
    obtain ⟨kind, member, d, needed, same⟩ := mem_kindEdges.mp edge
    cases same
    exact ⟨kind, member, rfl, needed⟩
  · rintro ⟨kind, member, rfl, needed⟩
    exact ⟨b, mem_kindEdges.mpr ⟨kind, member, b, needed, rfl⟩⟩

theorem endsKnown_kindGraph : (kindGraph kinds).EndsKnown ↔ Complete kinds := by
  constructor
  · intro ends kind member d needed
    exact mem_kindGraph.mp (ends _ (mem_kindEdges.mpr ⟨kind, member, d, needed, rfl⟩)).2
  · intro complete e edge
    obtain ⟨kind, member, d, needed, rfl⟩ := mem_kindEdges.mp edge
    exact ⟨mem_kindGraph.mpr ⟨kind, member, rfl⟩,
      mem_kindGraph.mpr (complete kind member d needed)⟩

/-! ### What the order goes by -/

theorem names_of_declared (same : others.map declared = kinds.map declared) :
    others.map Kind.name = kinds.map Kind.name := by
  have names := congrArg (List.map Prod.fst) same
  rwa [List.map_map, List.map_map] at names

theorem kindEdges_eq (kinds : List Kind) : kindEdges kinds =
    .ofList ((kinds.map declared).flatMap fun entry => entry.2.map fun d => ⟨entry.1, d, d⟩) := by
  rw [List.flatMap_map]
  rfl

theorem kindGraph_of_declared (same : others.map declared = kinds.map declared) :
    kindGraph others = kindGraph kinds := by
  rw [kindGraph, kindGraph, names_of_declared same, kindEdges_eq, kindEdges_eq, same]

theorem orderedKinds_of_duplicate (duplicate : ¬ Distinct kinds) :
    orderedKinds kinds = .error (.config .duplicateKinds) := by
  refine if_pos fun sizes => duplicate ?_
  have once := KeyMap.size_ofList_iff.mp (sizes.trans (List.length_map _).symm)
  rwa [List.map_map] at once

/-- Kinds of different names are ordered by their graph. -/
theorem orderedKinds_of_distinct (distinct : Distinct kinds) : orderedKinds kinds =
    (Graph.ofParts (kindGraph kinds).nodes (kindGraph kinds).edges).map fun graph =>
      graph.postorder.filterMap (byName kinds).get? := by
  have sizes : (byName kinds).size = kinds.length :=
    (KeyMap.size_ofList_iff.mpr distinct.keys).trans (List.length_map _)
  have names : SortedSet.ofList (byName kinds).keys = (kindGraph kinds).nodes := by
    refine SortedSet.ext_mem fun name => ?_
    rw [SortedSet.mem_ofList, byName, KeyMap.mem_keys_ofList, List.map_map, kindGraph,
      SortedSet.mem_ofList]
    rfl
  rw [← names]
  exact if_neg (not_not_intro sizes)

theorem orderedKinds_error_iff {fault : Error} : orderedKinds kinds = .error fault ↔
    (¬ Distinct kinds ∧ fault = .config .duplicateKinds) ∨
      (Distinct kinds ∧
        Graph.ofParts (kindGraph kinds).nodes (kindGraph kinds).edges = .error fault) := by
  by_cases distinct : Distinct kinds
  · simp [orderedKinds_of_distinct distinct, distinct, map_error_iff]
  · simp [orderedKinds_of_duplicate distinct, distinct, eq_comm]

/-! ### Any order of registration -/

theorem kindGraph_perm (perm : kinds.Perm others) : kindGraph others = kindGraph kinds := by
  have nodes : (kindGraph others).nodes = (kindGraph kinds).nodes :=
    SortedSet.ext_mem fun name => by simp only [mem_kindGraph, perm.mem_iff]
  have edges : kindEdges others = kindEdges kinds :=
    SortedSet.ext_mem fun e => by simp only [mem_kindEdges, perm.mem_iff]
  rw [kindGraph, edges]
  exact congrArg (Graph.mk · _) nodes

theorem byName_perm (distinct : Distinct kinds) (perm : kinds.Perm others) :
    byName others = byName kinds := by
  have entries := perm.map fun kind => (kind.name, kind)
  refine KeyMap.ext_get? fun name => ?_
  rw [byName, byName, KeyMap.get?_ofList_of_distinct distinct.keys,
    KeyMap.get?_ofList_of_distinct ((entries.map Prod.fst).nodup_iff.mp distinct.keys)]
  exact (KeyMap.find_perm entries distinct.keys name).symm

theorem orderedKinds_perm (perm : kinds.Perm others) : orderedKinds others = orderedKinds kinds := by
  have names : Distinct kinds ↔ Distinct others := (perm.map Kind.name).nodup_iff
  by_cases distinct : Distinct kinds
  · rw [orderedKinds_of_distinct distinct, orderedKinds_of_distinct (names.mp distinct),
      kindGraph_perm perm, byName_perm distinct perm]
  · rw [orderedKinds_of_duplicate distinct, orderedKinds_of_duplicate (mt names.mpr distinct)]

/-! ### Kinds that are ordered -/

theorem get?_byName (distinct : Distinct kinds) {name : String} {kind : Kind} :
    (byName kinds).get? name = some kind ↔ kind ∈ kinds ∧ kind.name = name := by
  rw [byName, KeyMap.get?_ofList_iff distinct.keys, List.mem_map]
  constructor
  · rintro ⟨_, member, same⟩
    cases same
    exact ⟨member, rfl⟩
  · rintro ⟨member, rfl⟩
    exact ⟨kind, member, rfl⟩

theorem names_filterMap (distinct : Distinct kinds) {names : List String}
    (known : ∀ name ∈ names, ∃ kind ∈ kinds, kind.name = name) :
    (names.filterMap (byName kinds).get?).map Kind.name = names := by
  induction names with
  | nil => rfl
  | cons name rest ih =>
    obtain ⟨⟨kind, member, same⟩, later⟩ := List.forall_mem_cons.mp known
    have found := (get?_byName distinct).mpr ⟨member, same⟩
    rw [List.filterMap_cons_some found, List.map_cons, same, ih later]

theorem orderedKinds_ok (ordered : orderedKinds kinds = .ok order) :
    Distinct kinds ∧ (kindGraph kinds).EndsKnown ∧ (kindGraph kinds).Acyclic ∧
      order = (kindGraph kinds).postorder.filterMap (byName kinds).get? := by
  have distinct : Distinct kinds := by
    by_contra duplicate
    rw [orderedKinds_of_duplicate duplicate] at ordered
    cases ordered
  rw [orderedKinds_of_distinct distinct] at ordered
  obtain ⟨graph, built, rfl⟩ := map_ok_iff.mp ordered
  obtain ⟨rfl, ends, acyclic⟩ := Graph.ofParts_ok built
  exact ⟨distinct, ends, acyclic, rfl⟩

/-- Kinds are ordered as their names are in the graph. -/
theorem names_ordered (ordered : orderedKinds kinds = .ok order) :
    order.map Kind.name = (kindGraph kinds).postorder := by
  obtain ⟨distinct, ends, acyclic, rfl⟩ := orderedKinds_ok ordered
  refine names_filterMap distinct fun name listed => ?_
  exact mem_kindGraph.mp ((Graph.mem_postorder acyclic ends).mp listed)

theorem mem_ordered (ordered : orderedKinds kinds = .ok order) {kind : Kind} :
    kind ∈ order ↔ kind ∈ kinds := by
  obtain ⟨distinct, ends, acyclic, rfl⟩ := orderedKinds_ok ordered
  simp only [List.mem_filterMap, get?_byName distinct]
  constructor
  · rintro ⟨_, -, member, -⟩
    exact member
  · intro member
    have known : kind.name ∈ (kindGraph kinds).nodes := mem_kindGraph.mpr ⟨kind, member, rfl⟩
    exact ⟨kind.name, (Graph.mem_postorder acyclic ends).mpr known, member, rfl⟩

theorem orderedKinds_inTurn (ordered : orderedKinds kinds = .ok order) : InTurn kinds order := by
  obtain ⟨distinct, ends, acyclic, -⟩ := orderedKinds_ok ordered
  have names := names_ordered ordered
  have apart : Distinct order := by
    rw [Distinct, names]
    exact Graph.nodup_postorder acyclic ends
  refine ⟨?_, apart, ?_⟩
  · exact (List.perm_ext_iff_of_nodup apart.of_map distinct.of_map).mpr fun kind => mem_ordered ordered
  · rintro before kind later rfl d needed
    have member : kind ∈ kinds := (mem_ordered ordered).mp (by simp)
    have depends : (kindGraph kinds).DependsOn kind.name d := by
      rw [dependsOn_kindGraph]
      exact ⟨kind, member, rfl, needed⟩
    rw [List.map_append, List.map_cons] at names
    exact List.mem_map.mp (Graph.dependency_before acyclic ends names.symm depends)

theorem orderedKinds_of_acyclic (distinct : Distinct kinds) (complete : Complete kinds)
    (acyclic : ¬ ∃ name, Relation.TransGen (Needs kinds) name name) :
    ∃ order, orderedKinds kinds = .ok order := by
  have none : (kindGraph kinds).Acyclic := by
    rw [Graph.Acyclic, dependsOn_kindGraph]
    exact not_exists.mp acyclic
  rw [orderedKinds_of_distinct distinct,
    Graph.ofParts_of_acyclic (endsKnown_kindGraph.mpr complete) none]
  exact ⟨_, rfl⟩

/-! ### Kinds that cannot be ordered -/

theorem orderedKinds_of_unknown (distinct : Distinct kinds) (unknown : ¬ Complete kinds) :
    ∃ a d, Needs kinds a d ∧ (∀ kind ∈ kinds, kind.name ≠ d) ∧
      orderedKinds kinds = .error (.graph (.unknownEndpoint d d) [a, d]) := by
  obtain ⟨e, edge, label, outside, place, refused⟩ :=
    Graph.ofParts_of_unknown (mt endsKnown_kindGraph.mp unknown)
  obtain ⟨kind, member, d, needed, rfl⟩ := mem_kindEdges.mp edge
  have inside : kind.name ∈ (kindGraph kinds).nodes := mem_kindGraph.mpr ⟨kind, member, rfl⟩
  obtain rfl : label = d := by
    rcases place with rfl | ⟨-, same⟩
    · exact absurd inside outside
    · exact same
  refine ⟨kind.name, label, ⟨kind, member, rfl, needed⟩, fun other present same => ?_,
    orderedKinds_error_iff.mpr (.inr ⟨distinct, refused⟩)⟩
  exact outside (mem_kindGraph.mpr ⟨other, present, same⟩)

/-- The chain that is reported leads from a kind back to it. -/
theorem orderedKinds_of_cycle (distinct : Distinct kinds) (complete : Complete kinds)
    (cycle : ∃ name, Relation.TransGen (Needs kinds) name name) :
    ∃ name way, (name :: (way ++ [name])).IsChain (Needs kinds) ∧
      orderedKinds kinds = .error (.graph .cycle (name :: (way ++ [name]))) := by
  have lawful := CycleFinder.standard_lawful
  have ends := endsKnown_kindGraph.mpr complete
  have cyclic : ¬ (kindGraph kinds).Acyclic := by
    rw [Graph.Acyclic, dependsOn_kindGraph, not_forall_not]
    exact cycle
  obtain ⟨chain, found⟩ :=
    Option.ne_none_iff_exists'.mp (mt (lawful.cycle?_eq_none_iff ends).mp cyclic)
  obtain ⟨name, way, rfl, shortest⟩ := lawful.cycle?_eq_some ends found
  have leads := shortest.leads
  rw [dependsOn_kindGraph] at leads
  exact ⟨name, way, leads,
    orderedKinds_error_iff.mpr (.inr ⟨distinct, Graph.ofPartsBy_eq_cycle_iff.mpr ⟨ends, found⟩⟩)⟩

/-! ### What is run -/

variable {g : Generator}

theorem untilRefusal_of_accepted {events : List Pipeline.Event}
    (accepted : ∀ fault, .arrived (.error fault) ∉ events) :
    Pipeline.untilRefusal events = events := by
  induction events with
  | nil => rfl
  | cons event rest ih =>
    have later := ih fun fault member => accepted fault (List.mem_cons_of_mem _ member)
    match event with
    | .passed stage label => simp only [Pipeline.untilRefusal, later]
    | .arrived (.ok job) => simp only [Pipeline.untilRefusal, later]
    | .arrived (.error fault) => exact absurd List.mem_cons_self (accepted fault)

theorem eventsOf_of_ok {kind : Kind} {tasks : List Task} (done : g.tasksOf kind = .ok tasks) :
    g.eventsOf kind = kind.pipeline.events (g.stageConfig kind) kind.jobs := by
  obtain ⟨jobs, ran, -⟩ := bind_ok_iff.mp done
  refine untilRefusal_of_accepted fun fault member => ?_
  have streamed : .error fault ∈ kind.pipeline.stream (g.stageConfig kind) kind.jobs := by
    rw [← Pipeline.items_events]
    exact List.mem_filterMap.mpr ⟨_, member, rfl⟩
  rw [collect_ok_iff.mp ran] at streamed
  simp at streamed

theorem started_of_ok (each : ∀ kind ∈ kinds, ∃ tasks, g.tasksOf kind = .ok tasks) :
    g.started kinds = kinds := by
  induction kinds with
  | nil => rfl
  | cons kind rest ih =>
    obtain ⟨⟨tasks, done⟩, later⟩ := List.forall_mem_cons.mp each
    simp only [started, done, ih later]

theorem started_prefix (g : Generator) (kinds : List Kind) : g.started kinds <+: kinds := by
  induction kinds with
  | nil => exact List.prefix_rfl
  | cons kind rest ih =>
    rw [started]
    split
    · exact List.cons_prefix_cons.mpr ⟨rfl, ih⟩
    · exact List.prefix_append [kind] rest

/-- Which stages are run depends on the kinds that are taken, not on those that are registered. -/
theorem started_registered (others taken : List Kind) :
    { g with kinds := others }.started taken = g.started taken := by
  induction taken with
  | nil => rfl
  | cons kind rest ih =>
    have same : { g with kinds := others }.tasksOf kind = g.tasksOf kind := rfl
    rw [started, started, same, ih]

/-- The full graph, if the kinds are taken one after the other. -/
def gather (g : Generator) (order : List Kind) : Result TaskGraph := do
  let tasks ← order.mapM g.tasksOf
  let full ← TaskGraph.ofTasks tasks.flatten
  g.checks.run .full g.graphConfig full
  return full

theorem fullGraph_eq (g : Generator) : g.fullGraph = orderedKinds g.kinds >>= g.gather := rfl

/-- All kinds have been run to the end, one after the other, and the graph is what is gathered
from them. -/
structure TakesKinds (g : Generator) (full : TaskGraph) : Prop where
  inTurn : InTurn g.kinds g.ran
  whole : g.events = g.ran.flatMap fun kind =>
    (kind.pipeline.events (g.stageConfig kind) kind.jobs).map fun event => (kind.name, event)
  gathered : g.gather g.ran = .ok full

theorem fullGraph_takesKinds {full : TaskGraph} (made : g.fullGraph = .ok full) :
    g.TakesKinds full := by
  rw [fullGraph_eq] at made
  obtain ⟨order, ordered, made⟩ := bind_ok_iff.mp made
  obtain ⟨tasks, done, -⟩ := bind_ok_iff.mp made
  have each : ∀ kind ∈ order, ∃ tasks, g.tasksOf kind = .ok tasks := fun kind member => by
    obtain ⟨tasks, -, here⟩ := exists_mapM_ok done member
    exact ⟨tasks, here⟩
  have ran : g.ran = order := by simp only [Generator.ran, ordered, started_of_ok each]
  refine ⟨ran ▸ orderedKinds_inTurn ordered, ?_, ran ▸ made⟩
  rw [events, ran]
  refine List.flatMap_congr fun kind member => ?_
  obtain ⟨tasks, here⟩ := each kind member
  rw [eventsOf_of_ok here]

theorem fullGraph_of_ordered (ordered : orderedKinds g.kinds = .ok order) :
    InTurn g.kinds order ∧ g.ran <+: order ∧ g.fullGraph = g.gather order := by
  have ran : g.ran = g.started order := by simp only [Generator.ran, ordered]
  refine ⟨orderedKinds_inTurn ordered, ran ▸ started_prefix g order, ?_⟩
  rw [fullGraph_eq, ordered]
  rfl

/-- A fault that no stage and no job has a part in: no kind has been run, and there is the same
fault whatever the stages and jobs of the kinds are. -/
structure FailsAtOnce (g : Generator) (fault : Error) : Prop where
  fails : g.fullGraph = .error fault
  idle : g.ran = []
  silent : g.events = []
  regardless : ∀ others : List Kind, others.map declared = g.kinds.map declared →
    { g with kinds := others }.fullGraph = .error fault

theorem fullGraph_of_refused {fault : Error} (refused : orderedKinds g.kinds = .error fault) :
    g.fullGraph = .error fault := by
  rw [fullGraph_eq, refused]
  rfl

theorem failsAtOnce_of_refused {fault : Error} (refused : orderedKinds g.kinds = .error fault) :
    g.FailsAtOnce fault := by
  have idle : g.ran = [] := by simp only [ran, refused]
  refine ⟨fullGraph_of_refused refused, idle, ?_, fun others same => fullGraph_of_refused ?_⟩
  · rw [events, idle, List.flatMap_nil]
  · rw [orderedKinds_error_iff] at refused ⊢
    rwa [Distinct, names_of_declared same, kindGraph_of_declared same]

/-- In whichever order kinds are registered, the full graph, or the fault instead of it, is the
same, and so is all that happens on the way. There is a full graph only if the stages of each
kind have been run once, after those of the kinds that it depends upon. Kinds that share a name,
depend upon unknown ones or upon themselves are refused before any stage is run; all others are
taken in turn, up to the first that fails. -/
theorem fullGraph_takes_kinds_in_turn (g : Generator) :
    (∀ others, g.kinds.Perm others →
      { g with kinds := others }.fullGraph = g.fullGraph ∧
        { g with kinds := others }.events = g.events) ∧
    (∀ full, g.fullGraph = .ok full → g.TakesKinds full) ∧
    (¬ Distinct g.kinds → g.FailsAtOnce (.config .duplicateKinds)) ∧
    (Distinct g.kinds → ¬ Complete g.kinds →
      ∃ a d, Needs g.kinds a d ∧ (∀ kind ∈ g.kinds, kind.name ≠ d) ∧
        g.FailsAtOnce (.graph (.unknownEndpoint d d) [a, d])) ∧
    (Distinct g.kinds → Complete g.kinds →
      (∃ name, Relation.TransGen (Needs g.kinds) name name) →
      ∃ name way, (name :: (way ++ [name])).IsChain (Needs g.kinds) ∧
        g.FailsAtOnce (.graph .cycle (name :: (way ++ [name])))) ∧
    (Distinct g.kinds → Complete g.kinds →
      (¬ ∃ name, Relation.TransGen (Needs g.kinds) name name) →
      ∃ order, InTurn g.kinds order ∧ g.ran <+: order ∧ g.fullGraph = g.gather order) := by
  refine ⟨fun others perm => ?_, fun full => fullGraph_takesKinds, fun duplicate => ?_,
    fun distinct unknown => ?_, fun distinct complete cycle => ?_, fun distinct complete acyclic => ?_⟩
  · have same := orderedKinds_perm perm
    constructor
    · rw [fullGraph_eq, fullGraph_eq, same]
      rfl
    · simp only [events, ran, same, started_registered]
      rfl
  · exact failsAtOnce_of_refused (orderedKinds_of_duplicate duplicate)
  · obtain ⟨a, d, needed, outside, refused⟩ := orderedKinds_of_unknown distinct unknown
    exact ⟨a, d, needed, outside, failsAtOnce_of_refused refused⟩
  · obtain ⟨name, way, leads, refused⟩ := orderedKinds_of_cycle distinct complete cycle
    exact ⟨name, way, leads, failsAtOnce_of_refused refused⟩
  · obtain ⟨order, ordered⟩ := orderedKinds_of_acyclic distinct complete acyclic
    exact ⟨order, fullGraph_of_ordered ordered⟩

/-- A kind of one job whose stage tells what it is given. -/
def watchedKind (name : String) (dependencies : List String) : Kind where
  name := name
  path := ""
  config := []
  dependencies := dependencies
  jobs := [readyJob name (dependencies.map fun d => (d, .str d)) [] []]
  pipeline := [Stage.watch "seen"]

/-- What is released is tested before, which is built before. -/
def releaseGenerator : Generator :=
  { imageGenerator with
    kinds := [watchedKind "release" ["build", "test"], watchedKind "build" [],
      watchedKind "test" ["build"]] }

/-- Two kinds of which each waits for the other. -/
def circularKinds : List Kind := [watchedKind "release" ["test"], watchedKind "test" ["release"]]

theorem fullGraph_takes_kinds_in_turn_release :
    (∃ full, releaseGenerator.fullGraph = .ok full ∧ full.labels = ["build", "release", "test"] ∧
      { releaseGenerator with kinds := releaseGenerator.kinds.reverse }.fullGraph = .ok full ∧
      releaseGenerator.events.map Prod.fst = ["build", "build", "test", "test", "release", "release"] ∧
      releaseGenerator.TakesKinds full ∧
      ∃ order, InTurn releaseGenerator.kinds order ∧ releaseGenerator.gather order = .ok full) ∧
    FailsAtOnce
      { releaseGenerator with kinds := watchedKind "test" [] :: releaseGenerator.kinds }
      (.config .duplicateKinds) ∧
    FailsAtOnce { releaseGenerator with kinds := [watchedKind "release" ["build"]] }
      (.graph (.unknownEndpoint "build" "build") ["release", "build"]) ∧
    ∃ chain, FailsAtOnce { releaseGenerator with kinds := circularKinds } (.graph .cycle chain) := by
  refine ⟨?_, ?_, ?_, ?_⟩
  · obtain ⟨anyOrder, made, -, -, cyclic, ordered⟩ := fullGraph_takes_kinds_in_turn releaseGenerator
    obtain ⟨full, done, labels⟩ := exists_ok (x := releaseGenerator.fullGraph)
      (p := fun full => full.labels = ["build", "release", "test"]) (by decide +kernel)
    obtain ⟨same, -⟩ := anyOrder _ (List.reverse_perm _).symm
    have acyclic : ¬ ∃ name, Relation.TransGen (Needs releaseGenerator.kinds) name name := by
      intro cycle
      obtain ⟨_, _, -, fails⟩ := cyclic (by decide) (by decide) cycle
      cases done.symm.trans fails.fails
    obtain ⟨order, inTurn, -, gathered⟩ := ordered (by decide) (by decide) acyclic
    exact ⟨full, done, of_decide_eq_true labels, same.trans done, by decide +kernel, made full done,
      order, inTurn, gathered.symm.trans done⟩
  · obtain ⟨-, -, duplicate, -⟩ := fullGraph_takes_kinds_in_turn
      { releaseGenerator with kinds := watchedKind "test" [] :: releaseGenerator.kinds }
    exact duplicate (by decide)
  · obtain ⟨-, -, -, unknown, -⟩ := fullGraph_takes_kinds_in_turn
      { releaseGenerator with kinds := [watchedKind "release" ["build"]] }
    obtain ⟨a, d, ⟨kind, member, rfl, needed⟩, -, fails⟩ := unknown (by decide) (by decide)
    cases List.mem_singleton.mp member
    cases List.mem_singleton.mp needed
    exact fails
  · obtain ⟨-, -, -, -, cyclic, -⟩ := fullGraph_takes_kinds_in_turn
      { releaseGenerator with kinds := circularKinds }
    have there : Needs circularKinds "release" "test" :=
      ⟨_, List.mem_cons_self, rfl, List.mem_cons_self⟩
    have back : Needs circularKinds "test" "release" :=
      ⟨_, List.mem_cons_of_mem _ List.mem_cons_self, rfl, List.mem_cons_self⟩
    obtain ⟨name, way, -, fails⟩ :=
      cyclic (by decide) (by decide) ⟨"release", .tail (.single there) back⟩
    exact ⟨_, fails⟩

end Generator

end TaskPlan
