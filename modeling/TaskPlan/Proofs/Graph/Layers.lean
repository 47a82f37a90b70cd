import TaskPlan.Proofs.Graph.Countdown

/-!
# The order of a graph

`postorder` lists every label of an acyclic graph once (`postorder_perm`), and what a
label depends on stands before it, in an earlier layer (`dependency_in_earlier_layer`,
`dependency_before`).
-/

namespace TaskPlan

namespace Graph

variable {g : Graph}

theorem layers_layered (acyclic : g.Acyclic) (ends : g.EndsKnown) :
    Layered g g.nodes.toList g.layers := (layers_counted acyclic ends).1

/-- Every label stands in the order of the graph once. -/
theorem postorder_perm (acyclic : g.Acyclic) (ends : g.EndsKnown) :
    g.postorder.Perm g.nodes.toList :=
  (layers_layered acyclic ends).perm

theorem mem_postorder (acyclic : g.Acyclic) (ends : g.EndsKnown) {label : String} :
    label ∈ g.postorder ↔ label ∈ g.nodes := (postorder_perm acyclic ends).mem_iff

theorem mem_nodes_of_mem_layer (acyclic : g.Acyclic) (ends : g.EndsKnown)
    {before after : List (List String)} {layer : List String}
    (split : g.layers = before ++ layer :: after) : ∀ label ∈ layer, label ∈ g.nodes := by
  intro label member
  refine (mem_postorder acyclic ends).mp ?_
  rw [postorder, split]
  exact List.mem_flatten.mpr ⟨layer, by simp, member⟩

theorem nodup_postorder (acyclic : g.Acyclic) (ends : g.EndsKnown) : g.postorder.Nodup :=
  (postorder_perm acyclic ends).nodup_iff.mpr g.nodes.nodup_toList

theorem dependency_in_earlier_layer (acyclic : g.Acyclic) (ends : g.EndsKnown)
    {before after : List (List String)} {layer : List String}
    (split : g.layers = before ++ layer :: after) {label d : String} (member : label ∈ layer)
    (depends : g.DependsOn label d) : d ∈ before.flatten :=
  (layers_layered acyclic ends).dependency_earlier split member depends (depends.known ends).2

theorem mem_before {r : String → String → Prop} {order before after : List String} {label d : String}
    (apart : order.Pairwise fun a b => ¬ r a b) (irrefl : ¬ r label label)
    (split : order = before ++ label :: after) (known : d ∈ order) (related : r label d) :
    d ∈ before := by
  subst split
  obtain ⟨-, later, -⟩ := List.pairwise_append.mp apart
  rcases List.mem_append.mp known with first | rest
  · exact first
  · rcases List.mem_cons.mp rest with rfl | last
    · exact absurd related irrefl
    · exact absurd related ((List.pairwise_cons.mp later).1 d last)

/-- What a label depends on stands before it. -/
theorem dependency_before (acyclic : g.Acyclic) (ends : g.EndsKnown) {before after : List String}
    {label d : String} (split : g.postorder = before ++ label :: after)
    (depends : g.DependsOn label d) : d ∈ before :=
  mem_before (layers_layered acyclic ends).pairwise (acyclic.irrefl label) split
    ((mem_postorder acyclic ends).mpr (depends.known ends).2) depends

/-- In the reversed order what depends on a label stands before it. -/
theorem dependent_before (acyclic : g.Acyclic) (ends : g.EndsKnown) {before after : List String}
    {label d : String} (split : g.preorder = before ++ label :: after)
    (depends : g.DependsOn d label) : d ∈ before := by
  have apart : g.preorder.Pairwise fun a b => ¬ g.DependsOn b a :=
    List.pairwise_reverse.mpr (layers_layered acyclic ends).pairwise
  have known : d ∈ g.preorder :=
    List.mem_reverse.mpr ((mem_postorder acyclic ends).mpr (depends.known ends).1)
  exact mem_before (r := fun a b => g.DependsOn b a) apart (acyclic.irrefl label) split known depends

end Graph

end TaskPlan
