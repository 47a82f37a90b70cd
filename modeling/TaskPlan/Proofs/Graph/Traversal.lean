import TaskPlan.Graph.Cycle
import TaskPlan.Proofs.Graph.Closure

/-!
# The two traversals

The first traversal leaves every label after all that depend on it, except for dependents
that it depends on itself (`Ordered`). So the first label that the second traversal reaches
from another one is on a cycle, and if there is none, then no label is: the traversals get
stuck exactly on graphs with a cycle, and at a label that is on one (`standard_lawful`).
-/

namespace TaskPlan

namespace Graph

def Visit.label : Visit → String
  | .enter label => label
  | .leave label => label

variable {g : Graph} {stack rest : List Visit} {entered left : List String} {label : String}

/-- A label comes after all its dependents in the list but those that it depends on. -/
inductive Ordered (g : Graph) : List String → Prop where
  | nil : Ordered g []
  | cons {label : String} {earlier : List String}
      (settled : ∀ d, g.DependsOn d label → d ∈ earlier ∨ Relation.TransGen g.DependsOn label d)
      (before : Ordered g earlier) : Ordered g (label :: earlier)

/-! ### The first traversal -/

/-- The labels that have been entered and not left. -/
def leaving (stack : List Visit) : List String :=
  stack.filterMap fun
    | .enter _ => none
    | .leave label => some label

@[simp] theorem leaving_enter : leaving (.enter label :: rest) = leaving rest := rfl

@[simp] theorem leaving_leave : leaving (.leave label :: rest) = label :: leaving rest := rfl

@[simp] theorem leaving_enters (labels : List String) (rest : List Visit) :
    leaving (labels.map .enter ++ rest) = leaving rest := by
  induction labels with
  | nil => rfl
  | cons first others ih => exact ih

theorem mem_leaving : label ∈ leaving stack ↔ .leave label ∈ stack := by
  simp only [leaving, List.mem_filterMap]
  constructor
  · rintro ⟨visit, member, same⟩
    cases visit with
    | enter other => cases same
    | leave other =>
      cases same
      exact member
  · intro member
    exact ⟨_, member, rfl⟩

/-- When a label is left, its dependents have been entered: they stand above it on the
stack or have been entered before. -/
def Supplied (g : Graph) : (entered : List String) → List Visit → Prop
  | _, [] => True
  | entered, .enter label :: rest => Supplied g (label :: entered) rest
  | entered, .leave label :: rest =>
    (∀ d, g.DependsOn d label → d ∈ entered) ∧ Supplied g entered rest

theorem Supplied.mono {more : List String} (supplied : g.Supplied entered stack)
    (sub : ∀ label ∈ entered, label ∈ more) : g.Supplied more stack := by
  induction stack generalizing entered more with
  | nil => trivial
  | cons visit rest ih =>
    cases visit with
    | enter label =>
      refine ih supplied fun other member => ?_
      rcases List.mem_cons.mp member with rfl | old
      · exact List.mem_cons_self
      · exact List.mem_cons_of_mem _ (sub other old)
    | leave label => exact ⟨fun d depends => sub d (supplied.1 d depends), ih supplied.2 sub⟩

theorem supplied_enters (labels : List String)
    (supplied : g.Supplied (labels.reverse ++ entered) rest) :
    g.Supplied entered (labels.map .enter ++ rest) := by
  induction labels generalizing entered with
  | nil => exact supplied
  | cons first others ih =>
    refine ih ?_
    rwa [List.reverse_cons, List.append_assoc] at supplied

/-- What the first traversal keeps. -/
structure Walking (g : Graph) (stack : List Visit) (entered left : List String) : Prop where
  once : (left ++ leaving stack).Nodup
  entered_iff : ∀ label, label ∈ entered ↔ label ∈ left ∨ label ∈ leaving stack
  /-- what stands above a label that is to be left depends on it -/
  nested : stack.Pairwise fun above below =>
    ∀ label, below = .leave label → Relation.TransGen g.DependsOn above.label label
  supplied : g.Supplied entered stack
  covers : ∀ label ∈ g.nodes, label ∈ entered ∨ .enter label ∈ stack
  known : ∀ label, .enter label ∈ stack → label ∈ g.nodes
  loopless : ∀ label ∈ entered, ¬ g.DependsOn label label
  ordered : g.Ordered left

theorem walking_start : g.Walking (g.nodes.toList.map .enter) [] [] where
  once := by
    have none := leaving_enters g.nodes.toList []
    rw [List.append_nil] at none
    rw [none]
    exact List.nodup_nil
  entered_iff label := by simp [mem_leaving]
  nested := List.pairwise_map.mpr (List.pairwise_of_forall fun _ _ => by simp)
  supplied := by
    have supplied : g.Supplied [] (g.nodes.toList.map .enter ++ []) := supplied_enters _ trivial
    rwa [List.append_nil] at supplied
  covers label member := .inr (List.mem_map_of_mem member)
  known label member := by simpa [SortedSet.mem_toList] using member
  loopless := by simp
  ordered := .nil

theorem Walking.leave (walking : g.Walking (.leave label :: rest) entered left) :
    g.Walking rest entered (label :: left) where
  once := (List.perm_middle.nodup_iff.mp walking.once)
  entered_iff other := by
    rw [walking.entered_iff other, leaving_leave, List.mem_cons, List.mem_cons]
    tauto
  nested := (List.pairwise_cons.mp walking.nested).2
  supplied := walking.supplied.2
  covers other member := (walking.covers other member).imp_right fun inside => by simpa using inside
  known other member := walking.known other (List.mem_cons_of_mem _ member)
  loopless := walking.loopless
  ordered := by
    refine .cons (fun d depends => ?_) walking.ordered
    -- the dependent has been left before, or is still below on the stack
    rcases (walking.entered_iff d).mp (walking.supplied.1 d depends) with before | waits
    · exact .inl before
    · rcases List.mem_cons.mp waits with rfl | below
      · exact .inr (.single depends)
      · have above := (List.pairwise_cons.mp walking.nested).1 _ (mem_leaving.mp below)
        exact .inr (above d rfl)

theorem Walking.skip (walking : g.Walking (.enter label :: rest) entered left)
    (seen : label ∈ entered) : g.Walking rest entered left where
  once := walking.once
  entered_iff := walking.entered_iff
  nested := (List.pairwise_cons.mp walking.nested).2
  supplied := by
    have below : g.Supplied (label :: entered) rest := walking.supplied
    refine below.mono fun other member => ?_
    rcases List.mem_cons.mp member with rfl | old
    · exact seen
    · exact old
  covers other member := by
    rcases walking.covers other member with before | inside
    · exact .inl before
    · rcases List.mem_cons.mp inside with same | inside
      · cases same
        exact .inl seen
      · exact .inr inside
  known other member := walking.known other (List.mem_cons_of_mem _ member)
  loopless := walking.loopless
  ordered := walking.ordered

theorem Walking.enter {next : List String} (walking : g.Walking (.enter label :: rest) entered left)
    (ends : g.EndsKnown) (fresh : label ∉ entered) (loopless : ¬ g.DependsOn label label)
    (mem_next : ∀ d, d ∈ next ↔ g.DependsOn d label) :
    g.Walking (next.map .enter ++ .leave label :: rest) (label :: entered) left := by
  have inside := walking.entered_iff label
  have above := (List.pairwise_cons.mp walking.nested).1
  exact {
    once := by
      rw [leaving_enters, leaving_leave]
      refine List.perm_middle.nodup_iff.mpr (List.nodup_cons.mpr ⟨fun member => fresh ?_, walking.once⟩)
      exact inside.mpr (List.mem_append.mp member)
    entered_iff := fun other => by
      have before := walking.entered_iff other
      rw [leaving_enter] at before
      rw [leaving_enters, leaving_leave, List.mem_cons, List.mem_cons, before]
      tauto
    nested := by
      refine List.pairwise_append.mpr ⟨?_, List.pairwise_cons.mpr ⟨above, ?_⟩, ?_⟩
      · exact List.pairwise_map.mpr (List.pairwise_of_forall fun _ _ => by simp)
      · exact (List.pairwise_cons.mp walking.nested).2
      · intro visit entering below member other same
        obtain ⟨d, isNext, rfl⟩ := List.mem_map.mp entering
        have depends := (mem_next d).mp isNext
        rcases List.mem_cons.mp member with rfl | member
        · cases same
          exact .single depends
        · exact .head depends (above below member other same)
    supplied := by
      have below : g.Supplied (label :: entered) rest := walking.supplied
      refine supplied_enters next ⟨fun d depends => ?_, below.mono fun other member => ?_⟩
      · simp [mem_next, depends]
      · exact List.mem_append_right _ member
    covers := fun other member => by
      rcases walking.covers other member with before | inside
      · exact .inl (List.mem_cons_of_mem _ before)
      · rcases List.mem_cons.mp inside with same | inside
        · cases same
          exact .inl List.mem_cons_self
        · exact .inr (List.mem_append_right _ (List.mem_cons_of_mem _ inside))
    known := fun other member => by
      rcases List.mem_append.mp member with entering | member
      · obtain ⟨d, isNext, same⟩ := List.mem_map.mp entering
        obtain rfl : d = other := by simpa using same
        exact (((mem_next d).mp isNext).known ends).1
      · refine walking.known other (List.mem_cons_of_mem _ ?_)
        simpa using member
    loopless := List.forall_mem_cons.mpr ⟨loopless, walking.loopless⟩
    ordered := walking.ordered }

/-- What the stack may still cost: its visits, and those that entering the other labels
puts onto it. -/
def walkCost (g : Graph) (stack : List Visit) (entered : List String) : Nat :=
  stack.length + g.unspent (fun label => (g.dependents label).size + 1) fun label => decide (label ∈ entered)

theorem walkCost_enter (known : label ∈ g.nodes) (fresh : label ∉ entered) :
    g.walkCost (.enter label :: rest) entered =
      g.walkCost ((g.dependents label).toList.reverse.map .enter ++ .leave label :: rest)
        (label :: entered) + 1 := by
  have spent : g.unspent (fun label => (g.dependents label).size + 1) (fun other => decide (other ∈ entered)) =
      (g.dependents label).size + 1 + g.unspent (fun label => (g.dependents label).size + 1)
        fun other => decide (other ∈ label :: entered) :=
    unspent_done known (decide_eq_false fresh) (by simp)
  have length : (g.dependents label).toList.length = (g.dependents label).size := rfl
  rw [walkCost, walkCost, spent, List.length_append, List.length_map, List.length_reverse, List.length_cons,
    List.length_cons, length]
  omega

theorem walkCost_start : g.walkCost (g.nodes.toList.map .enter) [] ≤ 2 * g.nodes.size + g.edges.size := by
  have edges := g.sum_dependents_le
  have each : g.unspent (fun label => (g.dependents label).size + 1) (fun _ => false) =
      g.unspent (fun label => (g.dependents label).size) (fun _ => false) + g.nodes.size := by
    rw [unspent, unspent, List.sum_map_add]
    simp [SortedSet.size]
  have length : (g.nodes.toList.map Visit.enter).length = g.nodes.size := List.length_map _
  have all : g.walkCost (g.nodes.toList.map .enter) [] = g.nodes.size +
      g.unspent (fun label => (g.dependents label).size + 1) (fun _ => false) := by
    simp [walkCost, length]
  omega

/-- With enough rounds the first traversal leaves all labels. -/
theorem finishOrder_inl (ends : g.EndsKnown) {rounds : Nat} {order : List String}
    (walking : g.Walking stack entered left) (enough : g.walkCost stack entered ≤ rounds)
    (ended : g.finishOrder rounds stack entered left = .inl order) :
    ∃ entered, g.Walking [] entered order := by
  induction rounds generalizing stack entered left with
  | zero =>
    have done : stack = [] := List.length_eq_zero_iff.mp (by rw [walkCost] at enough; omega)
    subst done
    cases ended
    exact ⟨entered, walking⟩
  | succ rounds ih =>
    match stack, walking, enough, ended with
    | [], walking, _, ended =>
      cases ended
      exact ⟨entered, walking⟩
    | .leave label :: rest, walking, enough, ended =>
      refine ih walking.leave ?_ ended
      rw [walkCost, List.length_cons] at enough
      rw [walkCost]
      omega
    | .enter label :: rest, walking, enough, ended =>
      simp only [finishOrder] at ended
      split at ended
      · rename_i seen
        refine ih (walking.skip (List.contains_iff_mem.mp seen)) ?_ ended
        rw [walkCost, List.length_cons] at enough
        rw [walkCost]
        omega
      · rename_i fresh
        have fresh : label ∉ entered := fun member => fresh (List.contains_iff_mem.mpr member)
        split at ended
        · cases ended
        · rename_i loopless
          have loopless : ¬ g.DependsOn label label := fun depends =>
            loopless (List.contains_iff_mem.mpr (mem_dependents_iff.mpr depends))
          have entering := walking.enter ends fresh loopless
            fun d => List.mem_reverse.trans (SortedSet.mem_toList.trans mem_dependents_iff)
          rw [walkCost_enter (walking.known label List.mem_cons_self) fresh] at enough
          exact ih entering (Nat.le_of_succ_le_succ enough) ended

theorem finishOrder_inr {rounds : Nat} (ended : g.finishOrder rounds stack entered left = .inr label) :
    g.DependsOn label label := by
  induction rounds generalizing stack entered left with
  | zero => cases ended
  | succ rounds ih =>
    match stack, ended with
    | [], ended => cases ended
    | .leave other :: rest, ended => exact ih ended
    | .enter other :: rest, ended =>
      simp only [finishOrder] at ended
      split at ended
      · exact ih ended
      · split at ended
        · rename_i loop
          cases ended
          exact mem_dependents_iff.mp (List.contains_iff_mem.mp loop)
        · exact ih ended

/-! ### The second traversal -/

theorem Ordered.of_append {first later : List String} (ordered : g.Ordered (first ++ later)) :
    g.Ordered later := by
  induction first with
  | nil => exact ordered
  | cons _ _ ih =>
    cases ordered with
    | cons _ before => exact ih before

/-- A label that is reached from another one has not been visited before that one. -/
theorem secondReached_some {order visited : List String} {found : String}
    (reached : g.secondReached order visited = some found) :
    ∃ before label after, order = before ++ label :: after ∧ g.DependsOn label found ∧
      found ≠ label ∧ found ∉ visited ∧ found ∉ before := by
  induction order generalizing visited with
  | nil => cases reached
  | cons first rest ih =>
    simp only [secondReached] at reached
    split at reached
    · rename_i seen
      obtain ⟨before, label, after, rfl, depends, other, fresh, later⟩ := ih reached
      have seen : first ∈ visited := List.contains_iff_mem.mp seen
      have unlike : found ≠ first := fun same => fresh (same ▸ seen)
      exact ⟨first :: before, label, after, rfl, depends, other, fresh,
        List.not_mem_cons_of_ne_of_not_mem unlike later⟩
    · split at reached
      · rename_i d last
        cases reached
        have member := List.mem_of_getLast? last
        simp only [List.mem_filter, SortedSet.mem_toList, mem_dependencies_iff, Bool.not_eq_true',
          List.contains_eq_mem, decide_eq_false_iff_not, List.mem_cons, not_or] at member
        obtain ⟨depends, other, fresh⟩ := member
        exact ⟨[], first, rest, rfl, depends, other, fresh, List.not_mem_nil⟩
      · obtain ⟨before, label, after, rfl, depends, other, fresh, later⟩ := ih reached
        have unlike : found ≠ first := List.ne_of_not_mem_cons fresh
        exact ⟨first :: before, label, after, rfl, depends, other, List.not_mem_of_not_mem_cons fresh,
          List.not_mem_cons_of_ne_of_not_mem unlike later⟩

/-- If no label is reached from another one, each label depends on ones before it alone. -/
theorem secondReached_none {order visited : List String}
    (loopless : ∀ label ∈ order, ¬ g.DependsOn label label)
    (closed : ∀ a ∈ visited, ∀ b, g.DependsOn a b → b ∈ visited)
    (settled : ∀ a ∈ visited, ¬ Relation.TransGen g.DependsOn a a)
    (none : g.secondReached order visited = none) :
    ∀ label ∈ order, ¬ Relation.TransGen g.DependsOn label label := by
  induction order generalizing visited with
  | nil => simp
  | cons first rest ih =>
    obtain ⟨here, later⟩ := List.forall_mem_cons.mp loopless
    simp only [secondReached] at none
    split at none
    · rename_i seen
      exact List.forall_mem_cons.mpr
        ⟨settled first (List.contains_iff_mem.mp seen), ih later closed settled none⟩
    · rename_i fresh
      have fresh : first ∉ visited := fun member => fresh (List.contains_iff_mem.mpr member)
      split at none
      · cases none
      · rename_i all
        have before (d : String) (depends : g.DependsOn first d) : d ∈ visited := by
          by_contra fresh
          have member : d ∈ (g.dependencies first).toList.filter fun d => !(first :: visited).contains d := by
            have other : d ≠ first := by
              rintro rfl
              exact here depends
            simp [SortedSet.mem_toList, mem_dependencies_iff, depends, other, fresh]
          rw [List.getLast?_eq_none_iff.mp all] at member
          cases member
        have stays (a b : String) (member : a ∈ visited) (path : Relation.TransGen g.DependsOn a b) :
            b ∈ visited := by
          induction path with
          | single depends => exact closed a member _ depends
          | tail _ depends ih => exact closed _ ih _ depends
        have acyclic : ¬ Relation.TransGen g.DependsOn first first := by
          intro cycle
          obtain ⟨d, depends, path⟩ := Relation.TransGen.head'_iff.mp cycle
          rcases Relation.reflTransGen_iff_eq_or_transGen.mp path with same | path
          · exact fresh (same ▸ before d depends)
          · exact fresh (stays d first (before d depends) path)
        refine List.forall_mem_cons.mpr ⟨acyclic, ih later ?_ ?_ none⟩
        · intro a member b depends
          rcases List.mem_cons.mp member with rfl | old
          · exact List.mem_cons_of_mem _ (before b depends)
          · exact List.mem_cons_of_mem _ (closed a old b depends)
        · exact List.forall_mem_cons.mpr ⟨acyclic, settled⟩

/-! ### Where the order gets stuck -/

theorem Walking.mem_order {order : List String} (walking : g.Walking [] entered order)
    (known : label ∈ g.nodes) : label ∈ order := by
  have inside := (walking.covers label known).resolve_right List.not_mem_nil
  exact ((walking.entered_iff label).mp inside).resolve_right List.not_mem_nil

theorem Walking.loopless_order {order : List String} (walking : g.Walking [] entered order) :
    ∀ label ∈ order, ¬ g.DependsOn label label :=
  fun label member => walking.loopless label ((walking.entered_iff label).mpr (.inl member))

theorem stuckAt?_some (ends : g.EndsKnown) (stuck : g.stuckAt? = some label) :
    Relation.TransGen g.DependsOn label label := by
  simp only [stuckAt?] at stuck
  split at stuck
  · rename_i ended
    cases stuck
    exact .single (finishOrder_inr ended)
  · rename_i order ended
    obtain ⟨entered, walking⟩ := finishOrder_inl ends walking_start (Nat.le_succ_of_le walkCost_start) ended
    obtain ⟨before, from_, after, rfl, depends, other, -, fresh⟩ := secondReached_some stuck
    have member := walking.mem_order (depends.known ends).2
    have later : label ∈ after := by simpa [fresh, other] using member
    obtain ⟨between, last, rfl⟩ := List.append_of_mem later
    -- the label is left before the one that depends on it, and so leads back to that
    have ordered := walking.ordered.of_append
    cases ordered with
    | cons _ ordered =>
      cases ordered.of_append with
      | cons settled _ =>
        have once : (before ++ from_ :: (between ++ label :: last)).Nodup := by
          simpa [leaving] using walking.once
        have apart : from_ ∉ last := fun inside =>
          (List.nodup_cons.mp (List.nodup_append.mp once).2.1).1
            (List.mem_append_right _ (List.mem_cons_of_mem _ inside))
        exact ((settled from_ depends).resolve_left apart).tail depends

theorem stuckAt?_none (ends : g.EndsKnown) (none : g.stuckAt? = none) : g.Acyclic := by
  simp only [stuckAt?] at none
  split at none
  · cases none
  · rename_i order ended
    obtain ⟨entered, walking⟩ := finishOrder_inl ends walking_start (Nat.le_succ_of_le walkCost_start) ended
    intro label cycle
    obtain ⟨d, depends, -⟩ := Relation.TransGen.head'_iff.mp cycle
    exact secondReached_none walking.loopless_order (by simp) (by simp) none label
      (walking.mem_order (depends.known ends).1) cycle

theorem mem_component (ends : g.EndsKnown) {start : String} (known : start ∈ g.nodes) :
    label ∈ g.component start ↔
      Relation.ReflTransGen g.DependsOn start label ∧ Relation.ReflTransGen g.DependsOn label start := by
  have single {a b : String} (known : a ∈ g.nodes) :
      b ∈ g.needed (.ofList [a]) ↔ Relation.ReflTransGen g.DependsOn a b := by
    rw [mem_needed ends (by simpa using known)]
    simp
  rw [component, SortedSet.mem_filter, single known, decide_eq_true_eq]
  refine and_congr_right fun path => ?_
  rw [single (reaches_known ends known path)]

end Graph

namespace CycleFinder

/-- An order gets stuck exactly on a graph with a cycle, at a label that is on one, and the
component of a label holds what it leads to and what leads to it. -/
structure Lawful (finder : CycleFinder) : Prop where
  acyclic_iff : ∀ g : Graph, g.EndsKnown → (finder.stuckAt? g = none ↔ g.Acyclic)
  on_cycle : ∀ (g : Graph) (label : String), g.EndsKnown → finder.stuckAt? g = some label →
    Relation.TransGen g.DependsOn label label
  mem_component : ∀ (g : Graph) (start label : String), g.EndsKnown → start ∈ g.nodes →
    (label ∈ finder.component g start ↔
      Relation.ReflTransGen g.DependsOn start label ∧ Relation.ReflTransGen g.DependsOn label start)

theorem standard_lawful : standard.Lawful where
  acyclic_iff g ends := by
    refine ⟨Graph.stuckAt?_none ends, fun acyclic => ?_⟩
    exact Option.eq_none_iff_forall_ne_some.mpr fun label stuck =>
      acyclic label (Graph.stuckAt?_some ends stuck)
  on_cycle g label ends stuck := Graph.stuckAt?_some ends stuck
  mem_component g start label ends known := Graph.mem_component ends known

end CycleFinder

end TaskPlan
