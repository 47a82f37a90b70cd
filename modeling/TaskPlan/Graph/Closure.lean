import TaskPlan.Error
import TaskPlan.Graph.Basic

/-!
# Closures under dependencies

The part of a graph that a set of labels needs: those labels, all they depend upon,
directly or not, and the edges between these.
-/

namespace TaskPlan

namespace Graph

/-- Takes labels from a queue and adds those not found before to the found ones, with
what they depend upon at the end of the queue. -/
def gather (g : Graph) : (rounds : Nat) → (found : SortedSet String) → (queue : List String) →
    SortedSet String
  | 0, found, _ => found
  | _ + 1, found, [] => found
  | rounds + 1, found, label :: queue =>
    if label ∈ found then g.gather rounds found queue
    else g.gather rounds (found.insert label) (queue ++ (g.dependencies label).toList)

/-- The labels and all they depend upon, directly or not. Each edge puts one label at
most into the queue. -/
def needed (g : Graph) (labels : SortedSet String) : SortedSet String :=
  g.gather (labels.size + g.edges.size) .empty labels.toList

def restrict (g : Graph) (s : SortedSet String) : Graph where
  nodes := s
  edges := g.edges.filter fun e => decide (e.dependent ∈ s) && decide (e.dependency ∈ s)

/-- The part of the graph that `labels` need. They must be labels of the graph; the
least one that is not is reported. -/
def closure (g : Graph) (labels : SortedSet String) : Result Graph :=
  match labels.toList.find? fun label => !g.contains label with
  | some missing => .error (.graph (.unknownLabel missing) [missing])
  | none => .ok (g.restrict (g.needed labels))

end Graph

end TaskPlan
