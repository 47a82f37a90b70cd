import Mathlib
import TaskPlan.Graph.Basic
import TaskPlan.Proofs.Order.Finite

/-!
# Dependencies between labels

`g.DependsOn a b` says that an edge runs from `a` to `b`. A graph is acyclic if no
label depends on itself through one edge or more. On an acyclic graph whose edges
have known ends one can argue from dependencies to dependents
(`Acyclic.dependencies_wellFounded`) and from dependents to dependencies
(`Acyclic.dependents_wellFounded`).
-/

namespace TaskPlan

namespace Graph

/-- `a` depends directly on `b`, under some name. -/
def DependsOn (g : Graph) (a b : String) : Prop := ∃ name, (⟨a, b, name⟩ : Edge) ∈ g.edges

/-- Both ends of every edge are labels of the graph. -/
def EndsKnown (g : Graph) : Prop := ∀ e ∈ g.edges, e.dependent ∈ g.nodes ∧ e.dependency ∈ g.nodes

/-- No label depends on itself, directly or not. -/
def Acyclic (g : Graph) : Prop := ∀ label, ¬ Relation.TransGen g.DependsOn label label

variable {g : Graph} {a b : String}

theorem contains_iff : g.contains a = true ↔ a ∈ g.nodes := decide_eq_true_iff

theorem mem_dependencies_iff : b ∈ g.dependencies a ↔ g.DependsOn a b := mem_dependencies

theorem mem_dependents_iff : a ∈ g.dependents b ↔ g.DependsOn a b := mem_dependents

theorem DependsOn.known (ends : g.EndsKnown) (depends : g.DependsOn a b) :
    a ∈ g.nodes ∧ b ∈ g.nodes := by
  obtain ⟨name, member⟩ := depends
  exact ends _ member

theorem DependsOn.mono {h : Graph} (sub : ∀ e ∈ g.edges, e ∈ h.edges) (depends : g.DependsOn a b) :
    h.DependsOn a b := by
  obtain ⟨name, member⟩ := depends
  exact ⟨name, sub _ member⟩

/-- A graph with fewer edges is acyclic too. -/
theorem Acyclic.mono {h : Graph} (acyclic : h.Acyclic) (sub : ∀ e ∈ g.edges, e ∈ h.edges) :
    g.Acyclic :=
  fun label cycle => acyclic label (cycle.lift id fun _ _ depends => depends.mono sub)

/-! ### Induction along dependencies -/

/-- A relation without cycles on finitely many labels is well-founded: the labels
that lead to a label are fewer than those that lead to a later one. -/
theorem wellFounded_of_acyclic {r : String → String → Prop} (labels : Finset String)
    (bounded : ∀ a b, r a b → a ∈ labels) (acyclic : ∀ a, ¬ Relation.TransGen r a a) :
    WellFounded r := by
  classical
  let below (a : String) : Finset String := labels.filter fun x => Relation.TransGen r x a
  have fewer : ∀ a b, r a b → (below a).card < (below b).card := by
    intro a b step
    apply Finset.card_lt_card
    refine Finset.ssubset_iff_of_subset ?_ |>.mpr ⟨a, ?_, ?_⟩
    · intro x member
      obtain ⟨known, path⟩ := Finset.mem_filter.mp member
      exact Finset.mem_filter.mpr ⟨known, path.tail step⟩
    · exact Finset.mem_filter.mpr ⟨bounded a b step, .single step⟩
    · intro member
      exact acyclic a (Finset.mem_filter.mp member).2
  exact Subrelation.wf (fun {a b} step => fewer a b step) (measure fun a => (below a).card).wf

theorem Acyclic.dependencies_wellFounded (acyclic : g.Acyclic) (ends : g.EndsKnown) :
    WellFounded fun b a => g.DependsOn a b := by
  refine wellFounded_of_acyclic g.nodes.toList.toFinset ?_ ?_
  · intro b a depends
    exact List.mem_toFinset.mpr (depends.known ends).2
  · intro label cycle
    exact acyclic label (Relation.transGen_swap.mp cycle)

theorem Acyclic.dependents_wellFounded (acyclic : g.Acyclic) (ends : g.EndsKnown) :
    WellFounded g.DependsOn := by
  refine wellFounded_of_acyclic g.nodes.toList.toFinset ?_ acyclic
  intro a b depends
  exact List.mem_toFinset.mpr (depends.known ends).1

theorem Acyclic.irrefl (acyclic : g.Acyclic) (label : String) : ¬ g.DependsOn label label :=
  fun depends => acyclic label (.single depends)

/-! ### Work that is left

A search that spends something on each label once is bounded by what it has not spent. -/

/-- What all labels cost that are not done. -/
def unspent (g : Graph) (cost : String → Nat) (done : String → Bool) : Nat :=
  ((g.nodes.toList.filter fun label => !done label).map cost).sum

theorem unspent_done {cost : String → Nat} {done more : String → Bool} {label : String}
    (known : label ∈ g.nodes) (undone : done label = false)
    (more_iff : ∀ other, more other = true ↔ other = label ∨ done other = true) :
    g.unspent cost done = cost label + g.unspent cost more := by
  have member : label ∈ g.nodes.toList.filter fun label => !done label :=
    List.mem_filter.mpr ⟨known, by simp [undone]⟩
  have others : (g.nodes.toList.filter fun label => !more label) =
      (g.nodes.toList.filter fun label => !done label).erase label := by
    rw [(g.nodes.nodup_toList.filter _).erase_eq_filter, List.filter_filter]
    refine List.filter_congr fun other _ => Bool.eq_iff_iff.mpr ?_
    simp [← Bool.not_eq_true, more_iff]
  rw [unspent, unspent, others, List.sum_map_erase cost member]

/-- Items with a label each, counted for different labels. -/
theorem sum_filter_le {α : Type} (labelOf : α → String) {labels : List String} (distinct : labels.Nodup)
    (items : List α) :
    (labels.map fun label => (items.filter fun item => labelOf item == label).length).sum ≤
      items.length := by
  induction labels generalizing items with
  | nil => exact Nat.zero_le _
  | cons first rest ih =>
    obtain ⟨fresh, distinct⟩ := List.nodup_cons.mp distinct
    have later := ih distinct (items.filter fun item => labelOf item != first)
    have same : rest.map (fun label => ((items.filter fun item => labelOf item != first).filter
        fun item => labelOf item == label).length) =
        rest.map fun label => (items.filter fun item => labelOf item == label).length := by
      refine List.map_congr_left fun label member => congrArg List.length ?_
      rw [List.filter_filter]
      refine List.filter_congr fun item _ => Bool.eq_iff_iff.mpr ?_
      have other : label ≠ first := fun same => fresh (same ▸ member)
      by_cases here : labelOf item = label <;> simp [here, other]
    have split := List.length_eq_length_filter_add (l := items) fun item => labelOf item == first
    rw [same] at later
    simp only [bne] at later
    rw [List.map_cons, List.sum_cons]
    omega

theorem sum_dependencies_le (g : Graph) :
    g.unspent (fun label => (g.dependencies label).size) (fun _ => false) ≤ g.edges.size := by
  refine Nat.le_trans (List.sum_le_sum fun label _ => ?_)
    (sum_filter_le Edge.dependent (g.nodes.nodup_toList.filter _) g.edges.toList)
  exact (SortedSet.size_ofList_le _).trans (Nat.le_of_eq (List.length_map _))

theorem sum_dependents_le (g : Graph) :
    g.unspent (fun label => (g.dependents label).size) (fun _ => false) ≤ g.edges.size := by
  refine Nat.le_trans (List.sum_le_sum fun label _ => ?_)
    (sum_filter_le Edge.dependency (g.nodes.nodup_toList.filter _) g.edges.toList)
  exact (SortedSet.size_ofList_le _).trans (Nat.le_of_eq (List.length_map _))

end Graph

end TaskPlan
