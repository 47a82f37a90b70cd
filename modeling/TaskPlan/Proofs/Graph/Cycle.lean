import TaskPlan.Proofs.Graph.SearchBack
import TaskPlan.Proofs.Graph.Traversal

/-!
# Graphs that pass

Parts make up a graph if the ends of all edges are known and no label depends on itself.
Otherwise they are refused, for an edge with an end that is unknown (`ofParts_of_unknown`)
or for a shortest cycle through the label at which the order of the labels gets stuck.
This needs nothing of how that label and its component are come upon but what they are
(`CycleFinder.Lawful`).
-/

namespace TaskPlan

namespace Graph

variable {g : Graph} {start : String}

/-! ### Chains that lead back -/

theorem exists_back (cycle : Relation.TransGen g.DependsOn start start) :
    ∃ way : List String, (start :: (way ++ [start])).IsChain g.DependsOn := by
  obtain ⟨d, depends, path⟩ := Relation.TransGen.head'_iff.mp cycle
  obtain ⟨rest, chain, last⟩ := List.exists_isChain_cons_of_relationReflTransGen path
  refine ⟨(d :: rest).dropLast, ?_⟩
  have split : (d :: rest).dropLast ++ [start] = d :: rest := by
    rw [← last]
    exact List.dropLast_append_getLast _
  rw [split]
  exact List.isChain_cons_cons.mpr ⟨depends, chain⟩

/-- A label leads to all labels of a chain back to it, and these lead to it. -/
theorem reaches_of_back {way : List String} (chain : (start :: (way ++ [start])).IsChain g.DependsOn)
    {label : String} (member : label ∈ start :: way) :
    Relation.ReflTransGen g.DependsOn start label ∧ Relation.ReflTransGen g.DependsOn label start := by
  rcases List.mem_cons.mp member with rfl | member
  · exact ⟨.refl, .refl⟩
  have paths : (start :: (way ++ [start])).Pairwise (Relation.TransGen g.DependsOn) :=
    (chain.imp fun {a b} depends => Relation.TransGen.single depends).pairwise
  obtain ⟨leads, rest⟩ := List.pairwise_cons.mp paths
  refine ⟨(leads label (List.mem_append_left _ member)).to_reflTransGen, ?_⟩
  exact ((List.pairwise_append.mp rest).2.2 label member start List.mem_cons_self).to_reflTransGen

/-- Each label of the chain depends on the next one, no label but the first comes back, and
no chain from that label back to it is shorter. -/
structure ShortestCycle (g : Graph) (start : String) (way : List String) : Prop where
  leads : (start :: (way ++ [start])).IsChain g.DependsOn
  once : (start :: way).Nodup
  least : ∀ other : List String, (start :: (other ++ [start])).IsChain g.DependsOn →
    way.length ≤ other.length

end Graph

/-! ### Finding a cycle -/

namespace CycleFinder

variable {g : Graph} {finder : CycleFinder}

theorem Lawful.mem_component_of_back (lawful : finder.Lawful) (ends : g.EndsKnown) {start : String}
    {way : List String} (chain : (start :: (way ++ [start])).IsChain g.DependsOn) :
    ∀ label ∈ start :: way, label ∈ finder.component g start := by
  intro label member
  have known : start ∈ g.nodes := by
    obtain ⟨leads, -⟩ := List.isChain_cons.mp chain
    cases way with
    | nil => exact ((leads _ rfl).known ends).1
    | cons _ _ => exact ((leads _ rfl).known ends).1
  exact (lawful.mem_component g start label ends known).mpr (Graph.reaches_of_back chain member)

/-- The way back that is searched for is a shortest one, and is found. -/
theorem Lawful.cycleThrough? (lawful : finder.Lawful) (ends : g.EndsKnown) {start : String}
    (cycle : Relation.TransGen g.DependsOn start start) :
    ∃ way, g.cycleThrough? start (finder.component g start) = some (start :: (way ++ [start])) ∧
      g.ShortestCycle start way := by
  cases found : g.searchBack start (finder.component g start) (g.nodes.size + 1) .empty [start] with
  | none =>
    obtain ⟨way, chain⟩ := Graph.exists_back cycle
    have enough : [start].length + (g.unvisited .empty).length ≤ g.nodes.size + 1 := by
      simp [Graph.unvisited, KeyMap.contains, SortedSet.size, Nat.add_comm]
    have within := lawful.mem_component_of_back ends chain
    exact absurd chain (Graph.searchBack_none ends Graph.searching_start enough found within)
  | some way =>
    have shortest := Graph.searchBack_some Graph.searching_start found
    refine ⟨way, by simp [Graph.cycleThrough?, found], shortest.leads, shortest.once, fun other chain => ?_⟩
    exact shortest.least other (lawful.mem_component_of_back ends chain) chain

theorem Lawful.cycle?_eq_none_iff (lawful : finder.Lawful) (ends : g.EndsKnown) :
    finder.cycle? g = none ↔ g.Acyclic := by
  rw [cycle?, Option.map_eq_none_iff, lawful.acyclic_iff g ends]

theorem Lawful.cycle?_eq_some (lawful : finder.Lawful) (ends : g.EndsKnown) {chain : List String}
    (found : finder.cycle? g = some chain) :
    ∃ start way, chain = start :: (way ++ [start]) ∧ g.ShortestCycle start way := by
  obtain ⟨start, stuck, rfl⟩ := Option.map_eq_some_iff.mp found
  obtain ⟨way, found, shortest⟩ := lawful.cycleThrough? ends (lawful.on_cycle g start ends stuck)
  exact ⟨start, way, by rw [found, Option.getD_some], shortest⟩

end CycleFinder

namespace Graph

variable {g : Graph} {finder : CycleFinder}

/-! ### Unknown ends -/

theorem unknownEnd?_eq_none_iff : g.unknownEnd? = none ↔ g.EndsKnown := by
  constructor
  · intro none e member
    have fits := List.findSome?_eq_none_iff.mp none e member
    split at fits
    · cases fits
    rename_i dependent
    split at fits
    · cases fits
    rename_i dependency
    simp only [Bool.not_eq_true, Bool.not_eq_false', contains_iff] at dependent dependency
    exact ⟨dependent, dependency⟩
  · intro ends
    refine List.findSome?_eq_none_iff.mpr fun e member => ?_
    obtain ⟨dependent, dependency⟩ := ends e member
    rw [contains_iff.mpr dependent, contains_iff.mpr dependency]
    rfl

theorem ofPartsBy_of_ends (ends : g.EndsKnown) : ofPartsBy finder g.nodes g.edges =
    match finder.cycle? g with
    | some chain => .error (.graph .cycle chain)
    | none => .ok g := by
  cases found : finder.cycle? g <;> simp [ofPartsBy, unknownEnd?_eq_none_iff.mpr ends, found]

/-- A graph with an edge that leads out of it is refused with the name of such an edge. -/
theorem ofPartsBy_of_unknown (finder : CycleFinder) (unknown : ¬ g.EndsKnown) :
    ∃ e ∈ g.edges, ∃ label, label ∉ g.nodes ∧
      (label = e.dependent ∨ e.dependent ∈ g.nodes ∧ label = e.dependency) ∧
      ofPartsBy finder g.nodes g.edges =
        .error (.graph (.unknownEndpoint label e.name) [e.dependent, e.dependency]) := by
  cases found : g.unknownEnd? with
  | none => exact absurd (unknownEnd?_eq_none_iff.mp found) unknown
  | some place =>
    obtain ⟨e, label⟩ := place
    obtain ⟨other, member, fits⟩ := List.exists_of_findSome?_eq_some found
    have refused : ofPartsBy finder g.nodes g.edges =
        .error (.graph (.unknownEndpoint label e.name) [e.dependent, e.dependency]) := by
      simp only [ofPartsBy, found]
    split at fits
    · rename_i dependent
      cases fits
      simp only [Bool.not_eq_true', ← Bool.not_eq_true, contains_iff] at dependent
      exact ⟨e, member, _, dependent, .inl rfl, refused⟩
    rename_i dependent
    split at fits
    · rename_i dependency
      cases fits
      simp only [Bool.not_eq_true, Bool.not_eq_false', contains_iff] at dependent
      simp only [Bool.not_eq_true', ← Bool.not_eq_true, contains_iff] at dependency
      exact ⟨e, member, _, dependency, .inr ⟨dependent, rfl⟩, refused⟩
    · cases fits

/-! ### Graphs from their parts -/

theorem ofPartsBy_eq_ok_iff (lawful : finder.Lawful) {built : Graph} :
    ofPartsBy finder g.nodes g.edges = .ok built ↔ built = g ∧ g.EndsKnown ∧ g.Acyclic := by
  by_cases ends : g.EndsKnown
  · rw [ofPartsBy_of_ends ends, ← lawful.cycle?_eq_none_iff ends]
    cases finder.cycle? g <;> simp [ends, eq_comm]
  · obtain ⟨e, -, label, -, -, refused⟩ := ofPartsBy_of_unknown finder ends
    simp [refused, ends]

theorem ofPartsBy_eq_cycle_iff {chain : List String} :
    ofPartsBy finder g.nodes g.edges = .error (.graph .cycle chain) ↔
      g.EndsKnown ∧ finder.cycle? g = some chain := by
  by_cases ends : g.EndsKnown
  · rw [ofPartsBy_of_ends ends]
    cases finder.cycle? g <;> simp [ends]
  · obtain ⟨e, -, label, -, -, refused⟩ := ofPartsBy_of_unknown finder ends
    simp [refused, ends]

/-- Parts make up a graph exactly if their edges have known ends and no cycle. If it is the
cycles that stand against it, a shortest one through one of its labels is reported. -/
theorem ofPartsBy_refuses_cycles (lawful : finder.Lawful) (g : Graph) :
    (∀ built, ofPartsBy finder g.nodes g.edges = .ok built ↔
      built = g ∧ g.EndsKnown ∧ g.Acyclic) ∧
    ((∃ chain, ofPartsBy finder g.nodes g.edges = .error (.graph .cycle chain)) ↔
      g.EndsKnown ∧ ¬ g.Acyclic) ∧
    ∀ chain, ofPartsBy finder g.nodes g.edges = .error (.graph .cycle chain) →
      ∃ start way, chain = start :: (way ++ [start]) ∧ g.ShortestCycle start way := by
  refine ⟨fun built => ofPartsBy_eq_ok_iff lawful, ?_, fun chain refused => ?_⟩
  · simp only [ofPartsBy_eq_cycle_iff, exists_and_left]
    refine and_congr_right fun ends => ?_
    rw [← lawful.cycle?_eq_none_iff ends, ← ne_eq, Option.ne_none_iff_exists']
  · obtain ⟨ends, found⟩ := ofPartsBy_eq_cycle_iff.mp refused
    exact lawful.cycle?_eq_some ends found

/-- The audit that a release is signed after is one of the release. -/
def selfAudited : Graph where
  nodes := .ofList ["audit", "build", "publish", "release", "signature"]
  edges := .ofList [⟨"release", "build", "artifact"⟩, ⟨"publish", "release", "release"⟩,
    ⟨"build", "signature", "key"⟩, ⟨"release", "signature", "signature"⟩,
    ⟨"signature", "audit", "report"⟩, ⟨"audit", "release", "release"⟩]

theorem ofPartsBy_refuses_selfAudited : CycleFinder.standard.Lawful ∧ ¬ selfAudited.Acyclic ∧
    ofPartsBy .standard selfAudited.nodes selfAudited.edges =
      .error (.graph .cycle ["release", "signature", "audit", "release"]) ∧
    ∃ start way, ["release", "signature", "audit", "release"] = start :: (way ++ [start]) ∧
      selfAudited.ShortestCycle start way := by
  have refused : ofPartsBy .standard selfAudited.nodes selfAudited.edges =
      .error (.graph .cycle ["release", "signature", "audit", "release"]) := by decide +kernel
  obtain ⟨-, cyclic, shortest⟩ :=
    ofPartsBy_refuses_cycles CycleFinder.standard_lawful selfAudited
  exact ⟨CycleFinder.standard_lawful, (cyclic.mp ⟨_, refused⟩).2, refused, shortest _ refused⟩

/-! ### The parts as they are put together -/

/-- A graph that is built from nodes and edges has these, known ends and no cycle. -/
theorem ofParts_ok {nodes : SortedSet String} {edges : SortedSet Edge}
    (built : ofParts nodes edges = .ok g) :
    g = ⟨nodes, edges⟩ ∧ g.EndsKnown ∧ g.Acyclic := by
  obtain ⟨rfl, ends, acyclic⟩ :=
    (ofPartsBy_eq_ok_iff (g := ⟨nodes, edges⟩) CycleFinder.standard_lawful).mp built
  exact ⟨rfl, ends, acyclic⟩

theorem ofParts_of_acyclic (ends : g.EndsKnown) (acyclic : g.Acyclic) :
    ofParts g.nodes g.edges = .ok g :=
  (ofPartsBy_eq_ok_iff CycleFinder.standard_lawful).mpr ⟨rfl, ends, acyclic⟩

theorem ofParts_of_unknown (unknown : ¬ g.EndsKnown) :
    ∃ e ∈ g.edges, ∃ label, label ∉ g.nodes ∧
      (label = e.dependent ∨ e.dependent ∈ g.nodes ∧ label = e.dependency) ∧
      ofParts g.nodes g.edges =
        .error (.graph (.unknownEndpoint label e.name) [e.dependent, e.dependency]) :=
  ofPartsBy_of_unknown .standard unknown

end Graph

end TaskPlan
