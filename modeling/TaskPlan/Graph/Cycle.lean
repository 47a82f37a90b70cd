import TaskPlan.Graph.Closure

/-!
# Graphs without cycles

`Graph.ofParts` builds a graph whose edges have known ends and on which no label
depends on itself, directly or not. A refusal for a cycle names the shortest one
through one of its labels, each followed by one it depends upon.
-/

namespace TaskPlan

namespace Graph

/-- The first edge that has an end outside the graph, with that end; of two such
ends the dependent counts. -/
def unknownEnd? (g : Graph) : Option (Edge × String) :=
  g.edges.toList.findSome? fun e =>
    if !g.contains e.dependent then some (e, e.dependent)
    else if !g.contains e.dependency then some (e, e.dependency)
    else none

/-! ### The way back to a label -/

/-- The labels that lead from `label` back to `start`, each to its parent. -/
def trail (parents : KeyMap String) (start : String) : (steps : Nat) → (label : String) → List String
  | 0, _ => []
  | steps + 1, label =>
    if label = start then []
    else
      match parents.get? label with
      | some parent => label :: trail parents start steps parent
      | none => [label]

/-- Breadth-first search for a way back to `start` along dependents, among the labels of
a component. The parent of a label is the one that it was come upon from. -/
def searchBack (g : Graph) (start : String) (component : SortedSet String) :
    (rounds : Nat) → (parents : KeyMap String) → (queue : List String) → Option (List String)
  | 0, _, _ => none
  | _ + 1, _, [] => none
  | rounds + 1, parents, label :: queue =>
    let next := (g.dependents label).toList
    if next.contains start then some (trail parents start (parents.size + 1) label)
    else
      let fresh := next.filter fun d => decide (d ∈ component) && !parents.contains d
      g.searchBack start component rounds
        (fresh.foldl (fun parents d => parents.insert d label) parents) (queue ++ fresh)

/-- The shortest cycle through a label, from the label back to it. -/
def cycleThrough? (g : Graph) (start : String) (component : SortedSet String) :
    Option (List String) :=
  (g.searchBack start component (g.nodes.size + 1) .empty [start]).map fun rest =>
    start :: rest ++ [start]

/-! ### Where a cycle is reported

A cycle is reported from a label that two depth-first traversals come upon: the first
along dependents, which also stops at a label that depends on itself, and the second
along dependencies from the labels that the first one left last. -/

inductive Visit where
  | enter (label : String)
  | leave (label : String)

/-- The labels in the reverse of the order in which the traversal leaves them, or
the first label that depends on itself. -/
def finishOrder (g : Graph) : (rounds : Nat) → List Visit → (entered left : List String) →
    List String ⊕ String
  | 0, _, _, left => .inl left
  | _, [], _, left => .inl left
  | rounds + 1, .leave label :: rest, entered, left =>
    g.finishOrder rounds rest entered (label :: left)
  | rounds + 1, .enter label :: rest, entered, left =>
    if entered.contains label then g.finishOrder rounds rest entered left
    else
      let next := (g.dependents label).toList
      if next.contains label then .inr label
      else g.finishOrder rounds (next.reverse.map .enter ++ .leave label :: rest) (label :: entered) left

/-- The first label that the second traversal reaches from another one. -/
def secondReached (g : Graph) : (order visited : List String) → Option String
  | [], _ => none
  | label :: rest, visited =>
    if visited.contains label then g.secondReached rest visited
    else
      let visited := label :: visited
      match ((g.dependencies label).toList.filter fun d => !visited.contains d).getLast? with
      | some found => some found
      | none => g.secondReached rest visited

def stuckAt? (g : Graph) : Option String :=
  let rounds := 2 * g.nodes.size + g.edges.size + 1
  match g.finishOrder rounds (g.nodes.toList.map .enter) [] [] with
  | .inr label => some label
  | .inl order => g.secondReached order []

/-- The labels that a label depends upon and that depend on it, directly or not. -/
def component (g : Graph) (label : String) : SortedSet String :=
  (g.needed (.ofList [label])).filter fun d => decide (label ∈ g.needed (.ofList [d]))

end Graph

/-- How cycles are come upon: at which label an order of the labels, dependencies first,
gets stuck, and which labels are on cycles with a label. -/
structure CycleFinder where
  stuckAt? : Graph → Option String
  component : Graph → (label : String) → SortedSet String

namespace CycleFinder

def standard : CycleFinder := ⟨Graph.stuckAt?, Graph.component⟩

/-- A cycle through the label at which the order gets stuck, or that label alone if there
is none through it. -/
def cycle? (finder : CycleFinder) (g : Graph) : Option (List String) :=
  (finder.stuckAt? g).map fun start =>
    (g.cycleThrough? start (finder.component g start)).getD [start]

end CycleFinder

namespace Graph

def ofPartsBy (finder : CycleFinder) (nodes : SortedSet String) (edges : SortedSet Edge) :
    Result Graph :=
  let g : Graph := ⟨nodes, edges⟩
  match g.unknownEnd? with
  | some (edge, label) =>
    .error (.graph (.unknownEndpoint label edge.name) [edge.dependent, edge.dependency])
  | none =>
    match finder.cycle? g with
    | some chain => .error (.graph .cycle chain)
    | none => .ok g

def ofParts : SortedSet String → SortedSet Edge → Result Graph := ofPartsBy .standard

end Graph

end TaskPlan
