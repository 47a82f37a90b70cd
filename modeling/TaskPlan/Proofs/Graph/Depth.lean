import TaskPlan.Proofs.Graph.Cycle
import TaskPlan.Proofs.Graph.Layers

/-!
# Layers by depth

The depth of a label is the length of the longest chain of dependencies that it begins.
A label of an acyclic graph is in the layer with the number of its depth, so that the
layers are determined by the nodes and the edges (`eq_of_stratified`), and there are as
many as a longest chain has labels (`layers_stratify`).
-/

namespace TaskPlan

namespace Graph

variable {g : Graph} {label : String} {i : Nat}

/-- The label begins a chain of so many dependencies, and none of more. -/
def Depth (g : Graph) (label : String) (depth : Nat) : Prop :=
  IsGreatest {n | ∃ rest : List String, (label :: rest).IsChain g.DependsOn ∧ rest.length = n} depth

/-- Every label of the graph is in one layer, and that is the one of its depth. -/
structure Stratified (g : Graph) (layers : List (List String)) : Prop where
  once : layers.flatten.Perm g.nodes.toList
  occupied : ∀ layer ∈ layers, layer ≠ []
  ascending : ∀ layer ∈ layers, layer.Pairwise (· < ·)
  depth : ∀ i layer, layers[i]? = some layer → ∀ label ∈ layer, g.Depth label i

/-! ### The depth decides the layers -/

theorem Stratified.mem_iff {layers : List (List String)} (stratified : g.Stratified layers)
    {layer : List String} (here : layers[i]? = some layer) :
    label ∈ layer ↔ label ∈ g.nodes ∧ g.Depth label i := by
  constructor
  · intro member
    refine ⟨stratified.once.mem_iff.mp ?_, stratified.depth i layer here label member⟩
    exact List.mem_flatten.mpr ⟨layer, List.mem_of_getElem? here, member⟩
  · rintro ⟨known, depth⟩
    obtain ⟨other, inside, member⟩ := List.mem_flatten.mp (stratified.once.mem_iff.mpr known)
    obtain ⟨j, there⟩ := List.mem_iff_getElem?.mp inside
    have same : j = i := (stratified.depth j other there label member).unique depth
    rw [same, here] at there
    exact Option.some.inj there ▸ member

/-- A layer of one stratification is also one of another. -/
theorem Stratified.getElem?_of {layers others : List (List String)} (stratified : g.Stratified layers)
    (other : g.Stratified others) {layer : List String} (here : layers[i]? = some layer) :
    others[i]? = some layer := by
  obtain ⟨label, member⟩ :=
    List.exists_mem_of_ne_nil layer (stratified.occupied layer (List.mem_of_getElem? here))
  obtain ⟨known, depth⟩ := (stratified.mem_iff here).mp member
  obtain ⟨twin, inside, present⟩ := List.mem_flatten.mp (other.once.mem_iff.mpr known)
  obtain ⟨j, there⟩ := List.mem_iff_getElem?.mp inside
  have place : j = i := (other.depth j twin there label present).unique depth
  subst place
  have ascends {layer : List String} (sorted : layer.Pairwise (· < ·)) :
      layer.Pairwise fun a b => compare a b = .lt := sorted.imp compare_lt_iff_lt.mpr
  have same : layer = twin :=
    SortedSet.eq_of_mem_iff (ascends (stratified.ascending layer (List.mem_of_getElem? here)))
      (ascends (other.ascending twin inside))
      fun a => (stratified.mem_iff here).trans (other.mem_iff there).symm
  rw [there, same]

theorem eq_of_stratified {layers others : List (List String)} (stratified : g.Stratified layers)
    (other : g.Stratified others) : layers = others := by
  refine List.ext_getElem? fun i => Option.ext fun layer => ?_
  exact ⟨stratified.getElem?_of other, other.getElem?_of stratified⟩

/-! ### Chains through the layers -/

theorem Layered.occupied {remaining : List String} {layers : List (List String)}
    (layered : Layered g remaining layers) : ∀ layer ∈ layers, layer ≠ [] := by
  induction layered with
  | nil => simp
  | cons some _ ih => exact List.forall_mem_cons.mpr ⟨some, ih⟩

theorem Layered.ascending {remaining : List String} {layers : List (List String)}
    (layered : Layered g remaining layers) (ascending : remaining.Pairwise (· < ·)) :
    ∀ layer ∈ layers, layer.Pairwise (· < ·) := by
  induction layered with
  | nil => simp
  | cons _ _ ih => exact List.forall_mem_cons.mpr ⟨ascending.filter _, ih (ascending.filter _)⟩

theorem Layered.first {remaining : List String} {layers : List (List String)}
    (layered : Layered g remaining layers) {layer : List String} (here : layers[0]? = some layer) :
    layer = g.ready remaining := by
  cases layered with
  | nil => simp at here
  | cons _ _ => simpa using here.symm

/-- What is not in a layer because it is not ready waits for a label of that layer. -/
theorem Layered.exists_dependency {remaining : List String} {layers : List (List String)}
    (layered : Layered g remaining layers) {layer next : List String} (here : layers[i]? = some layer)
    (there : layers[i + 1]? = some next) (member : label ∈ next) :
    ∃ d ∈ layer, g.DependsOn label d := by
  induction layered generalizing i with
  | nil => simp at here
  | @cons remaining rest _ later ih =>
    cases i with
    | succ i => exact ih (by simpa using here) (by simpa using there)
    | zero =>
      obtain rfl : g.ready remaining = layer := by simpa using here
      obtain rfl : next = g.ready (g.others remaining) := later.first (by simpa using there)
      obtain ⟨kept, settled⟩ := mem_ready.mp member
      obtain ⟨inside, unready⟩ := mem_others.mp kept
      obtain ⟨d, depends, waits⟩ : ∃ d, g.DependsOn label d ∧ d ∈ remaining := by
        by_contra none
        exact unready (mem_ready.mpr ⟨inside, fun d depends waits => none ⟨d, depends, waits⟩⟩)
      refine ⟨d, ?_, depends⟩
      by_contra later
      exact settled d depends (mem_others.mpr ⟨waits, later⟩)

section Layers

variable (acyclic : g.Acyclic) (ends : g.EndsKnown)

include acyclic ends

theorem exists_layer (known : label ∈ g.nodes) :
    ∃ (i : Nat) (layer : List String), g.layers[i]? = some layer ∧ label ∈ layer := by
  obtain ⟨layer, inside, member⟩ := List.mem_flatten.mp ((mem_postorder acyclic ends).mpr known)
  obtain ⟨i, here⟩ := List.mem_iff_getElem?.mp inside
  exact ⟨i, layer, here, member⟩

theorem dependency_layer {layer : List String} (here : g.layers[i]? = some layer) (member : label ∈ layer)
    {d : String} (depends : g.DependsOn label d) :
    ∃ j < i, ∃ earlier, g.layers[j]? = some earlier ∧ d ∈ earlier := by
  obtain ⟨bound, rfl⟩ := List.getElem?_eq_some_iff.mp here
  have split : g.layers = g.layers.take i ++ g.layers[i] :: g.layers.drop (i + 1) := by simp
  obtain ⟨earlier, inside, before⟩ :=
    List.mem_flatten.mp (dependency_in_earlier_layer acyclic ends split member depends)
  obtain ⟨j, there⟩ := List.mem_iff_getElem?.mp inside
  rw [List.getElem?_take] at there
  split at there
  · exact ⟨j, ‹_›, earlier, there, before⟩
  · cases there

theorem length_le_of_chain {layer rest : List String} (here : g.layers[i]? = some layer)
    (member : label ∈ layer) (chain : (label :: rest).IsChain g.DependsOn) : rest.length ≤ i := by
  induction rest generalizing label i layer with
  | nil => exact Nat.zero_le i
  | cons d rest ih =>
    obtain ⟨depends, chain⟩ := List.isChain_cons_cons.mp chain
    obtain ⟨j, less, earlier, there, before⟩ := dependency_layer acyclic ends here member depends
    have shorter := ih there before chain
    rw [List.length_cons]
    omega

theorem exists_chain {layer : List String} (here : g.layers[i]? = some layer) (member : label ∈ layer) :
    ∃ rest, (label :: rest).IsChain g.DependsOn ∧ rest.length = i := by
  induction i generalizing label layer with
  | zero => exact ⟨[], List.isChain_singleton label, rfl⟩
  | succ i ih =>
    obtain ⟨earlier, there⟩ : ∃ earlier, g.layers[i]? = some earlier := by
      have bound := (List.getElem?_eq_some_iff.mp here).1
      exact ⟨_, List.getElem?_eq_getElem (Nat.lt_of_succ_lt bound)⟩
    obtain ⟨d, inside, depends⟩ := (layers_layered acyclic ends).exists_dependency there here member
    obtain ⟨rest, chain, length⟩ := ih there inside
    exact ⟨d :: rest, List.isChain_cons_cons.mpr ⟨depends, chain⟩, by rw [List.length_cons, length]⟩

theorem layers_stratified : g.Stratified g.layers where
  once := postorder_perm acyclic ends
  occupied := (layers_layered acyclic ends).occupied
  ascending := (layers_layered acyclic ends).ascending (g.nodes.ascending.imp compare_lt_iff_lt.mp)
  depth i layer here label member := by
    refine ⟨exists_chain acyclic ends here member, ?_⟩
    rintro _ ⟨rest, chain, rfl⟩
    exact length_le_of_chain acyclic ends here member chain

omit acyclic in
theorem chain_known {rest : List String} (known : label ∈ g.nodes)
    (chain : (label :: rest).IsChain g.DependsOn) : ∀ other ∈ label :: rest, other ∈ g.nodes := by
  induction rest generalizing label with
  | nil => simpa using known
  | cons d rest ih =>
    obtain ⟨depends, chain⟩ := List.isChain_cons_cons.mp chain
    exact List.forall_mem_cons.mpr ⟨known, ih (depends.known ends).2 chain⟩

/-- A longest chain of dependencies in the graph has as many labels as there are layers. -/
theorem length_layers : IsGreatest {n | ∃ chain : List String, (∀ other ∈ chain, other ∈ g.nodes) ∧
    chain.IsChain g.DependsOn ∧ chain.length = n} g.layers.length := by
  constructor
  · rcases Nat.eq_zero_or_pos g.layers.length with none | some
    · exact ⟨[], by simp, .nil, none.symm⟩
    · have here := List.getElem?_eq_getElem (Nat.sub_one_lt_of_lt some)
      obtain ⟨label, member⟩ := List.exists_mem_of_ne_nil _
        ((layers_layered acyclic ends).occupied _ (List.mem_of_getElem? here))
      obtain ⟨rest, chain, length⟩ := exists_chain acyclic ends here member
      have known := ((layers_stratified acyclic ends).mem_iff here).mp member
      refine ⟨label :: rest, chain_known ends known.1 chain, chain, ?_⟩
      rw [List.length_cons, length]
      omega
  · rintro _ ⟨chain, known, linked, rfl⟩
    cases chain with
    | nil => exact Nat.zero_le _
    | cons label rest =>
      obtain ⟨i, layer, here, member⟩ := exists_layer acyclic ends (known label List.mem_cons_self)
      have shorter := length_le_of_chain acyclic ends here member linked
      have bound := (List.getElem?_eq_some_iff.mp here).1
      rw [List.length_cons]
      omega

end Layers

/-- The layers of a graph are its one stratification: every label is once in the layer of
its depth. Building them counts no label down that waits for none, in whatever order the
first labels are found, and takes as many rounds as a longest chain has labels; fewer do
not do. One layer after the other is an order of all labels, dependencies first. -/
theorem layers_stratify (acyclic : g.Acyclic) (ends : g.EndsKnown) :
    (∀ layers, g.Stratified layers ↔ layers = g.layers) ∧
    (∀ order rounds, order.Perm (free g.waiting) →
      g.layersFrom rounds g.waiting order =
        if g.layers.length ≤ rounds then some g.layers else none) ∧
    IsGreatest {n | ∃ chain : List String, (∀ label ∈ chain, label ∈ g.nodes) ∧
      chain.IsChain g.DependsOn ∧ chain.length = n} g.layers.length ∧
    g.postorder.Perm g.nodes.toList ∧
    ∀ before label after, g.postorder = before ++ label :: after →
      ∀ d, g.DependsOn label d → d ∈ before := by
  have stratified := layers_stratified acyclic ends
  refine ⟨fun layers => ⟨fun other => eq_of_stratified other stratified, ?_⟩, ?_,
    length_layers acyclic ends, postorder_perm acyclic ends, ?_⟩
  · rintro rfl
    exact stratified
  · intro order rounds same
    exact (layers_counted acyclic ends).2 order rounds fun label => same.mem_iff
  · intro before label after split d depends
    exact dependency_before acyclic ends split depends

/-- Two tests need one build, the first of them under two names. -/
def twoTests : Graph where
  nodes := .ofList ["toolchain", "build", "image", "lint", "test"]
  edges := .ofList [⟨"build", "toolchain", "compiler"⟩, ⟨"test", "build", "binary"⟩,
    ⟨"test", "build", "symbols"⟩, ⟨"test", "image", "image"⟩, ⟨"lint", "build", "binary"⟩]

theorem layers_stratify_twoTests : twoTests.Acyclic ∧ twoTests.EndsKnown ∧
    twoTests.Stratified [["image", "toolchain"], ["build"], ["lint", "test"]] ∧
    twoTests.layersFrom 3 twoTests.waiting ["toolchain", "image"] =
      some [["image", "toolchain"], ["build"], ["lint", "test"]] ∧
    twoTests.layersFrom 2 twoTests.waiting ["toolchain", "image"] = none := by
  have built : ofParts twoTests.nodes twoTests.edges = .ok twoTests := by decide +kernel
  obtain ⟨-, ends, acyclic⟩ := ofParts_ok built
  have layers : twoTests.layers = [["image", "toolchain"], ["build"], ["lint", "test"]] := by
    decide +kernel
  have first : ["toolchain", "image"].Perm (free twoTests.waiting) := by decide +kernel
  obtain ⟨unique, rounds, -⟩ := layers_stratify acyclic ends
  rw [layers] at unique rounds
  exact ⟨acyclic, ends, (unique _).mpr rfl, rounds _ 3 first, rounds _ 2 first⟩

end Graph

end TaskPlan
