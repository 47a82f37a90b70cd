import TaskPlan.TaskGraph
import TaskPlan.Proofs.Graph.Closure
import TaskPlan.Proofs.Graph.Cycle

/-!
# Parts that labels need

The part of a graph that some labels need holds whatever its labels depend on. So nothing
that can be seen from one of its labels is lost: the part is a graph of its own without
being checked (`ofParts_restrict`), smaller parts can be cut from it as from the whole
graph (`closure_restrict`), and a task keeps its dependencies (`subgraph_of_closure`).
-/

namespace TaskPlan

namespace Graph

variable {g : Graph} {s : SortedSet String} {label : String}

theorem ext_mem {h : Graph} (nodes : ∀ label, label ∈ g.nodes ↔ label ∈ h.nodes)
    (edges : ∀ e, e ∈ g.edges ↔ e ∈ h.edges) : g = h := by
  obtain ⟨nodes₁, edges₁⟩ := g
  obtain ⟨nodes₂, edges₂⟩ := h
  obtain rfl : nodes₁ = nodes₂ := SortedSet.ext_mem nodes
  obtain rfl : edges₁ = edges₂ := SortedSet.ext_mem edges
  rfl

/-! ### Closed parts -/

theorem restrict_ends : (g.restrict s).EndsKnown :=
  fun _ member => (mem_edges_restrict.mp member).2

theorem restrict_acyclic (acyclic : g.Acyclic) : (g.restrict s).Acyclic :=
  acyclic.mono fun _ member => (mem_edges_restrict.mp member).1

theorem ofParts_restrict (acyclic : g.Acyclic) :
    ofParts (g.restrict s).nodes (g.restrict s).edges = .ok (g.restrict s) :=
  ofParts_of_acyclic restrict_ends (restrict_acyclic acyclic)

section Closed

variable (closed : g.ClosedUnder s)

include closed

/-- A label of a closed part leads to the same labels there as in the whole graph. -/
theorem reaches_restrict_iff {start : String} (member : start ∈ s) :
    Relation.ReflTransGen (g.restrict s).DependsOn start label ↔
      Relation.ReflTransGen g.DependsOn start label := by
  constructor
  · intro path
    exact path.lift id fun a b depends => depends.mono fun e inside => (mem_edges_restrict.mp inside).1
  · intro path
    induction path with
    | refl => exact .refl
    | tail path depends ih =>
      have inside := closed.reaches member path
      obtain ⟨name, edge⟩ := depends
      exact ih.tail ⟨name, mem_edges_restrict.mpr ⟨edge, inside, closed _ _ ⟨name, edge⟩ inside⟩⟩

/-- The dependencies of a label of a closed part have the same names and targets. -/
theorem named_restrict (member : label ∈ s) : (g.restrict s).named label = g.named label := by
  have same : ((g.edges.filter fun e => decide (e.dependent ∈ s) && decide (e.dependency ∈ s)).toList.filter
      fun e => e.dependent == label) = g.edges.toList.filter fun e => e.dependent == label := by
    rw [SortedSet.filter, List.filter_filter]
    refine List.filter_congr fun e edge => Bool.eq_iff_iff.mpr ?_
    simp only [Bool.and_eq_true, beq_iff_eq, decide_eq_true_eq, and_iff_left_iff_imp]
    rintro rfl
    exact ⟨member, closed _ _ ⟨e.name, edge⟩ member⟩
  rw [named, named, restrict, same]

/-- What labels of a closed part need is all there. -/
theorem closure_restrict (ends : g.EndsKnown) (known : ∀ label ∈ s, label ∈ g.nodes)
    {inner : SortedSet String} (within : ∀ label ∈ inner, label ∈ s) :
    (g.restrict s).closure inner = g.closure inner := by
  have knownToo (label : String) (member : label ∈ inner) : label ∈ g.nodes :=
    known label (within label member)
  have needed (label : String) : label ∈ (g.restrict s).needed inner ↔ label ∈ g.needed inner := by
    rw [mem_needed restrict_ends within, mem_needed ends knownToo]
    refine exists_congr fun start => and_congr_right fun member => ?_
    exact reaches_restrict_iff closed (within start member)
  have stays (label : String) (member : label ∈ g.needed inner) : label ∈ s := by
    obtain ⟨start, from_, path⟩ := (mem_needed ends knownToo).mp member
    exact closed.reaches (within start from_) path
  have same : (g.restrict s).restrict ((g.restrict s).needed inner) = g.restrict (g.needed inner) := by
    refine ext_mem needed fun e => ?_
    simp only [mem_edges_restrict, needed]
    constructor
    · rintro ⟨⟨edge, -⟩, inside⟩
      exact ⟨edge, inside⟩
    · rintro ⟨edge, dependent, dependency⟩
      exact ⟨⟨edge, stays _ dependent, stays _ dependency⟩, dependent, dependency⟩
  rw [closure_eq_ok_iff.mpr ⟨knownToo, rfl⟩, closure_eq_ok_iff.mpr ⟨within, same.symm⟩]

end Closed

/-! ### What labels need -/

variable {labels : SortedSet String} {part : Graph}

/-- The part that labels need is the one on the labels that they lead to. -/
theorem closure_eq_ok_iff_mem (ends : g.EndsKnown) : g.closure labels = .ok part ↔
    (∀ label ∈ labels, label ∈ g.nodes) ∧
    (∀ label, label ∈ part.nodes ↔
      ∃ start ∈ labels, Relation.ReflTransGen g.DependsOn start label) ∧
    ∀ e, e ∈ part.edges ↔ e ∈ g.edges ∧ e.dependent ∈ part.nodes ∧ e.dependency ∈ part.nodes := by
  rw [closure_eq_ok_iff]
  refine and_congr_right fun known => ?_
  constructor
  · rintro rfl
    exact ⟨fun label => mem_needed ends known, fun e => mem_edges_restrict⟩
  · rintro ⟨nodes, edges⟩
    have same (label : String) : label ∈ part.nodes ↔ label ∈ g.needed labels :=
      (nodes label).trans (mem_needed ends known).symm
    refine ext_mem same fun e => ?_
    rw [edges, same, same, mem_edges_restrict]

theorem closure_fails_iff :
    (∃ fault, g.closure labels = .error fault) ↔ ∃ label ∈ labels, label ∉ g.nodes := by
  constructor
  · rintro ⟨fault, refused⟩
    obtain ⟨missing, ⟨⟨member, unknown⟩, -⟩, -⟩ := closure_eq_error_iff.mp refused
    exact ⟨missing, member, unknown⟩
  · rintro ⟨label, member, unknown⟩
    cases cut : g.closure labels with
    | error fault => exact ⟨fault, rfl⟩
    | ok part => exact absurd ((closure_eq_ok_iff.mp cut).1 label member) unknown

end Graph

namespace TaskGraph

variable {input : TaskGraph} {labels : SortedSet String} {part : Graph}

/-- A task of the part that labels need keeps its dependencies and their ids. -/
theorem subgraph_of_closure (ends : input.graph.EndsKnown) (closed : input.graph.closure labels = .ok part) :
    ∃ cut, input.subgraph labels = .ok cut ∧ cut.graph = part ∧ ∀ label ∈ part.nodes,
      cut.get? label = input.get? label ∧ cut.dependencies label = input.dependencies label ∧
      cut.externalOf label = input.externalOf label := by
  obtain ⟨s, rfl, -, stays⟩ := Graph.closure_ok ends closed
  refine ⟨_, bind_ok_iff.mpr ⟨_, closed, rfl⟩, rfl, fun label member => ⟨?_, ?_, ?_⟩⟩
  · rw [get?, KeyMap.get?_filter_keys, if_pos (Graph.contains_iff.mpr member), get?]
  · exact Graph.named_restrict stays member
  · rw [externalOf, KeyMap.get?_filter_keys, if_pos (Graph.contains_iff.mpr member), externalOf]

end TaskGraph

namespace Graph

/-- The part of a graph that labels need is refused for the least label that is unknown,
and else is the graph on what the labels lead to. It is a graph without cycles, parts of
it are those of the whole graph, and a task graph that is cut down to it keeps what it
says of its tasks. -/
theorem closure_cuts_needed {g : Graph} (ends : g.EndsKnown) (acyclic : g.Acyclic)
    (labels : SortedSet String) :
    ((∃ fault, g.closure labels = .error fault) ↔ ∃ label ∈ labels, label ∉ g.nodes) ∧
    (∀ fault, g.closure labels = .error fault ↔
      ∃ missing, IsLeast {label | label ∈ labels ∧ label ∉ g.nodes} missing ∧
        fault = .graph (.unknownLabel missing) [missing]) ∧
    (∀ part, g.closure labels = .ok part ↔
      (∀ label ∈ labels, label ∈ g.nodes) ∧
      (∀ label, label ∈ part.nodes ↔
        ∃ start ∈ labels, Relation.ReflTransGen g.DependsOn start label) ∧
      ∀ e, e ∈ part.edges ↔ e ∈ g.edges ∧ e.dependent ∈ part.nodes ∧ e.dependency ∈ part.nodes) ∧
    ∀ part, g.closure labels = .ok part →
      part.EndsKnown ∧ part.Acyclic ∧ ofParts part.nodes part.edges = .ok part ∧
      (∀ inner, (∀ label ∈ inner, label ∈ part.nodes) → part.closure inner = g.closure inner) ∧
      ∀ input : TaskGraph, input.graph = g → ∃ cut, input.subgraph labels = .ok cut ∧
        cut.graph = part ∧ ∀ label ∈ part.nodes,
          cut.get? label = input.get? label ∧ cut.dependencies label = input.dependencies label ∧
          cut.externalOf label = input.externalOf label := by
  refine ⟨closure_fails_iff, fun fault => closure_eq_error_iff, fun part => closure_eq_ok_iff_mem ends,
    fun part cut => ?_⟩
  obtain ⟨s, rfl, known, closed⟩ := closure_ok ends cut
  refine ⟨restrict_ends, restrict_acyclic acyclic, ofParts_restrict acyclic, ?_, ?_⟩
  · exact fun inner within => closure_restrict closed ends known within
  · rintro input rfl
    exact TaskGraph.subgraph_of_closure ends cut

def sampleTask (label : String) (dependencies : List (String × String)) : Task where
  label := label
  kind := "check"
  attributes := .empty
  dependencies := .ofList dependencies
  optimization := none
  worker := .alwaysOptimized
  definition := .null

/-- The test needs a build under two names, and the build an image whose base has been
replaced. -/
def testedBuild : TaskGraph where
  tasks := .ofList ([sampleTask "build" [("image", "image")], sampleTask "image" [("base", "base")],
    sampleTask "lint" [("image", "image")],
    sampleTask "test" [("binary", "build"), ("symbols", "build")]].map fun task => (task.label, task))
  graph := {
    nodes := .ofList ["build", "image", "lint", "test"]
    edges := .ofList [⟨"build", "image", "image"⟩, ⟨"lint", "image", "image"⟩,
      ⟨"test", "build", "binary"⟩, ⟨"test", "build", "symbols"⟩] }
  external := .ofList [("image", .ofList [("base", "VEv2dRNuT1uWMbrWsNQ6Yg")])]

theorem closure_cuts_testedBuild :
    testedBuild.graph.EndsKnown ∧ testedBuild.graph.Acyclic ∧
    testedBuild.graph.closure (.ofList ["docs", "deploy", "test"]) =
      .error (.graph (.unknownLabel "deploy") ["deploy"]) ∧
    ∃ cut, testedBuild.subgraph (.ofList ["test"]) = .ok cut ∧
      cut.graph.nodes = .ofList ["build", "image", "test"] ∧
      cut.dependencies "test" = .ofList [("binary", "build"), ("symbols", "build")] ∧
      (cut.externalOf "image").get? "base" = some "VEv2dRNuT1uWMbrWsNQ6Yg" := by
  have built : ofParts testedBuild.graph.nodes testedBuild.graph.edges = .ok testedBuild.graph := by
    decide +kernel
  obtain ⟨-, ends, acyclic⟩ := ofParts_ok built
  obtain ⟨-, refused, -, -⟩ :=
    closure_cuts_needed ends acyclic (.ofList ["docs", "deploy", "test"])
  obtain ⟨-, -, -, cuts⟩ := closure_cuts_needed ends acyclic (.ofList ["test"])
  have least : IsLeast {label | label ∈ SortedSet.ofList ["docs", "deploy", "test"] ∧
      label ∉ testedBuild.graph.nodes} "deploy" := by
    refine ⟨⟨by decide, by decide⟩, ?_⟩
    rintro other ⟨member, unknown⟩
    rcases (by simpa using member : other = "docs" ∨ other = "deploy" ∨ other = "test") with
      rfl | rfl | rfl
    · decide
    · decide
    · exact absurd (by decide) unknown
  have closed : testedBuild.graph.closure (.ofList ["test"]) =
      .ok (testedBuild.graph.restrict (.ofList ["build", "image", "test"])) := by decide +kernel
  obtain ⟨-, -, -, -, keeps⟩ := cuts _ closed
  obtain ⟨cut, made, graph, same⟩ := keeps testedBuild rfl
  refine ⟨ends, acyclic, (refused _).mpr ⟨"deploy", least, rfl⟩, cut, made, by rw [graph]; rfl, ?_, ?_⟩
  · rw [(same "test" (by decide)).2.1]
    decide +kernel
  · rw [(same "image" (by decide)).2.2]
    decide +kernel

end Graph

end TaskPlan
