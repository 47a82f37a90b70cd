import TaskPlan.Yaml.Tree

/-!
# Documents with their aliases followed

A node is a part of a document in which every alias has been replaced by what its
anchor marks. What nests too deeply or follows aliases too often is refused, so a
document that contains itself is too.
-/

namespace TaskPlan

namespace Yaml

inductive Node where
  | scalar (tag : Option String) (text : String) (style : ScalarStyle)
  | sequence (tag : Option String) (items : List Node)
  | mapping (tag : Option String) (entries : List (Node × Node))

namespace Tree

/-! ### Numbers for anchors -/

/-- The number of an anchor is that of the names known before it. A name that is used
again is counted once, so the anchor after it has the same number as its second use. -/
def declare (anchor : Option String) (names : List (String × Nat)) :
    Option Nat × List (String × Nat) :=
  match anchor with
  | none => (none, names)
  | some name => (some names.length, (name, names.length) :: names.filter fun entry => entry.1 != name)

mutual

/-- The tree with numbers for its anchors; an alias must come after its anchor. -/
def number : Tree String → StateT (List (String × Nat)) Option (Tree Nat)
  | .alias name => fun names => (names.lookup name).map fun n => (.alias n, names)
  | .scalar anchor tag text style => fun names =>
    let (anchor, names) := declare anchor names
    some (.scalar anchor tag text style, names)
  | .sequence anchor tag items => fun names => do
    let (anchor, names) := declare anchor names
    let (items, names) ← numberItems items names
    return (.sequence anchor tag items, names)
  | .mapping anchor tag entries => fun names => do
    let (anchor, names) := declare anchor names
    let (entries, names) ← numberEntries entries names
    return (.mapping anchor tag entries, names)
termination_by structural tree => tree

def numberItems : List (Tree String) → StateT (List (String × Nat)) Option (List (Tree Nat))
  | [] => pure []
  | item :: rest => do
    let item ← number item
    let rest ← numberItems rest
    return item :: rest
termination_by structural items => items

def numberEntries :
    List (Tree String × Tree String) → StateT (List (String × Nat)) Option (List (Tree Nat × Tree Nat))
  | [] => pure []
  | (key, value) :: rest => do
    let key ← number key
    let value ← number value
    let rest ← numberEntries rest
    return (key, value) :: rest
termination_by structural entries => entries

end

def marked (anchor : Option Nat) (tree : Tree Nat) : List (Nat × Tree Nat) :=
  match anchor with
  | some n => [(n, tree)]
  | none => []

mutual

def anchored : Tree Nat → List (Nat × Tree Nat)
  | .alias _ => []
  | .scalar anchor tag text style => marked anchor (.scalar anchor tag text style)
  | .sequence anchor tag items => marked anchor (.sequence anchor tag items) ++ anchoredItems items
  | .mapping anchor tag entries =>
    marked anchor (.mapping anchor tag entries) ++ anchoredEntries entries
termination_by structural tree => tree

def anchoredItems : List (Tree Nat) → List (Nat × Tree Nat)
  | [] => []
  | item :: rest => anchored item ++ anchoredItems rest
termination_by structural items => items

def anchoredEntries : List (Tree Nat × Tree Nat) → List (Nat × Tree Nat)
  | [] => []
  | (key, value) :: rest => anchored key ++ anchored value ++ anchoredEntries rest
termination_by structural entries => entries

end

mutual

/-- The number of scalars, aliases and ends of collections. -/
def weight : Tree ρ → Nat
  | .alias _ => 1
  | .scalar _ _ _ _ => 1
  | .sequence _ _ items => weightOfItems items + 2
  | .mapping _ _ entries => weightOfEntries entries + 2
termination_by structural tree => tree

def weightOfItems : List (Tree ρ) → Nat
  | [] => 0
  | item :: rest => weight item + weightOfItems rest
termination_by structural items => items

def weightOfEntries : List (Tree ρ × Tree ρ) → Nat
  | [] => 0
  | (key, value) :: rest => weight key + weight value + weightOfEntries rest
termination_by structural entries => entries

end

/-! ### Following aliases -/

structure Anchors where
  marked : List (Nat × Tree Nat)
  limit : Nat

/-- What a tree is, or the alias that it is leads to. The state counts the aliases
that were followed. -/
def follow (anchors : Anchors) : Tree Nat → StateT Nat Option (Tree Nat)
  | .alias n => fun count =>
    if anchors.limit ≤ count then none
    else (anchors.marked.lookup n).map fun tree => (tree, count + 1)
  | tree => pure tree

/-- The node that a tree stands for, with collections nested `depth` deep at most. -/
def expand (anchors : Anchors) : (depth : Nat) → Tree Nat → StateT Nat Option Node
  | _, .scalar _ tag text style => pure (.scalar tag text style)
  | depth + 1, .sequence _ tag items => do
    let items ← items.mapM fun item => do
      let item ← follow anchors item
      expand anchors depth item
    return .sequence tag items
  | depth + 1, .mapping _ tag entries => do
    let entries ← entries.mapM fun entry => do
      let key ← follow anchors entry.1
      let key ← expand anchors depth key
      let value ← follow anchors entry.2
      let value ← expand anchors depth value
      return (key, value)
    return .mapping tag entries
  | _, _ => fun _ => none

end Tree

def maxDepth : Nat := 128

/-- How often aliases may be followed for each part of a document. -/
def maxRepetition : Nat := 100

def Node.read (text : String) : Option (Option Node) := do
  let tokens ← Token.scan text
  match ← Tree.read tokens with
  | none => return none
  | some tree =>
    let (numbered, _) ← tree.number []
    let anchors : Tree.Anchors := ⟨numbered.anchored.reverse, maxRepetition * tree.weight⟩
    let (node, _) ← numbered.expand anchors maxDepth 0
    return some node

end Yaml

end TaskPlan
