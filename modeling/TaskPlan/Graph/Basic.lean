import TaskPlan.Order.KeyMap
import TaskPlan.Order.SortedSet

/-!
# Graphs of labels

A graph has labels as nodes and named edges, each from a dependent label to one it
depends upon. Two labels may be joined by several edges under different names.
-/

namespace TaskPlan

structure Edge where
  dependent : String
  dependency : String
  name : String
deriving DecidableEq, Repr

namespace Edge

/-- Edges are ordered by dependent, then dependency, then name. -/
instance : Ord Edge where
  compare := compareLex (compareOn dependent) (compareLex (compareOn dependency) (compareOn name))

instance : Std.TransOrd Edge :=
  inferInstanceAs (Std.TransCmp
    (compareLex (compareOn dependent) (compareLex (compareOn dependency) (compareOn name))))

theorem eq_of_compare {a b : Edge} (h : compare a b = .eq) : a = b := by
  obtain ⟨dependent, dependency, name⟩ := a
  simp only [compare, compareLex, compareOn, Ordering.then_eq_eq] at h
  obtain ⟨sameDependent, sameDependency, sameName⟩ := h
  have dependents : dependent = b.dependent :=
    Std.LawfulEqOrd.eq_of_compare (show compare dependent b.dependent = .eq from sameDependent)
  have dependencies : dependency = b.dependency :=
    Std.LawfulEqOrd.eq_of_compare (show compare dependency b.dependency = .eq from sameDependency)
  have names : name = b.name :=
    Std.LawfulEqOrd.eq_of_compare (show compare name b.name = .eq from sameName)
  subst dependents dependencies names
  rfl

instance : Std.LawfulEqOrd Edge where
  compare_self := Std.ReflCmp.compare_self
  eq_of_compare := eq_of_compare

end Edge

structure Graph where
  nodes : SortedSet String
  edges : SortedSet Edge
deriving DecidableEq, Inhabited

namespace Graph

def empty : Graph := ⟨.empty, .empty⟩

def contains (g : Graph) (label : String) : Bool := decide (label ∈ g.nodes)

def size (g : Graph) : Nat := g.nodes.size

def dependencies (g : Graph) (label : String) : SortedSet String :=
  .ofList ((g.edges.toList.filter fun e => e.dependent == label).map Edge.dependency)

def dependents (g : Graph) (label : String) : SortedSet String :=
  .ofList ((g.edges.toList.filter fun e => e.dependency == label).map Edge.dependent)

/-- The labels that `label` depends upon by the name of the dependency; of several
edges under one name the last counts. -/
def named (g : Graph) (label : String) : KeyMap String :=
  .ofList ((g.edges.toList.filter fun e => e.dependent == label).map fun e => (e.name, e.dependency))

theorem mem_dependencies {g : Graph} {a b : String} :
    b ∈ g.dependencies a ↔ ∃ name, (⟨a, b, name⟩ : Edge) ∈ g.edges := by
  simp only [dependencies, SortedSet.mem_ofList, List.mem_map, List.mem_filter, beq_iff_eq]
  constructor
  · rintro ⟨⟨dependent, dependency, name⟩, ⟨member, rfl⟩, rfl⟩
    exact ⟨name, member⟩
  · rintro ⟨name, member⟩
    exact ⟨⟨a, b, name⟩, ⟨member, rfl⟩, rfl⟩

theorem mem_dependents {g : Graph} {a b : String} :
    a ∈ g.dependents b ↔ ∃ name, (⟨a, b, name⟩ : Edge) ∈ g.edges := by
  simp only [dependents, SortedSet.mem_ofList, List.mem_map, List.mem_filter, beq_iff_eq]
  constructor
  · rintro ⟨⟨dependent, dependency, name⟩, ⟨member, rfl⟩, rfl⟩
    exact ⟨name, member⟩
  · rintro ⟨name, member⟩
    exact ⟨⟨a, b, name⟩, ⟨member, rfl⟩, rfl⟩

def erase (g : Graph) (label : String) : Graph where
  nodes := g.nodes.filter fun node => node != label
  edges := g.edges.filter fun e => e.dependent != label && e.dependency != label

/-! ### Layers

A label waits for all it depends upon. The labels that wait for none make up a layer;
once they are done, the labels that depend on them wait for fewer. -/

/-- How many labels each label waits for at first. -/
def waiting (g : Graph) : KeyMap Nat :=
  .ofList (g.nodes.toList.map fun label => (label, (g.dependencies label).size))

/-- The labels that wait for no other. -/
def free (waiting : KeyMap Nat) : List String :=
  waiting.keys.filter fun label => waiting.get? label == some 0

/-- Those of the labels that still wait do so for one label fewer, and are ready once
they wait for none. There is no result if one of them waits for none already. -/
def countDown : (labels : List String) → (waiting : KeyMap Nat) → (ready : List String) →
    Option (KeyMap Nat × List String)
  | [], waiting, ready => some (waiting, ready)
  | label :: rest, waiting, ready =>
    match waiting.get? label with
    | none => countDown rest waiting ready
    | some 0 => none
    | some (count + 1) =>
      countDown rest (waiting.insert label count) (if count = 0 then ready ++ [label] else ready)

/-- The labels of a layer are done, one after the other. -/
def finish (g : Graph) : (layer : List String) → (waiting : KeyMap Nat) → (ready : List String) →
    Option (KeyMap Nat × List String)
  | [], waiting, ready => some (waiting, ready)
  | label :: rest, waiting, ready => do
    let (waiting, ready) ← countDown (g.dependents label).toList (waiting.erase label) ready
    g.finish rest waiting ready

/-- The layers from the labels that are ready on. There is no result if so many rounds
do not do. -/
def layersFrom (g : Graph) : (rounds : Nat) → (waiting : KeyMap Nat) → (ready : List String) →
    Option (List (List String))
  | _, _, [] => some []
  | 0, _, _ :: _ => none
  | rounds + 1, waiting, first :: others => do
    let layer := (SortedSet.ofList (first :: others)).toList
    let (waiting, next) ← g.finish layer waiting []
    let later ← g.layersFrom rounds waiting next
    return layer :: later

/-- Generations of labels: each depends only on labels of earlier ones. A layer has
a label, so there are no more of them than labels. -/
def layers (g : Graph) : List (List String) :=
  (g.layersFrom g.nodes.size g.waiting (free g.waiting)).getD []

def postorder (g : Graph) : List String := g.layers.flatten

def preorder (g : Graph) : List String := g.postorder.reverse

end Graph

end TaskPlan
