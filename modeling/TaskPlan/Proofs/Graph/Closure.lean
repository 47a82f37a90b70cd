import TaskPlan.Graph.Closure
import TaskPlan.Proofs.Graph.Dependency
import TaskPlan.Proofs.Outcome

/-!
# Closures

The labels that are gathered from a queue are those that the queue leads to
(`mem_needed`): each round takes a label off the queue, and what the found labels depend
on has been found or is still in the queue (`Gathering`). So the closure of some labels
is the graph on all they depend on, directly or not (`closure_eq_ok_iff`).
-/

namespace TaskPlan

namespace Graph

variable {g : Graph} {s found : SortedSet String} {queue : List String} {label : String}

/-- A set of labels that holds whatever its labels depend on. -/
def ClosedUnder (g : Graph) (s : SortedSet String) : Prop :=
  ∀ a b, g.DependsOn a b → a ∈ s → b ∈ s

/-- What the found labels depend on is found or in the queue. -/
def Gathering (g : Graph) (found : SortedSet String) (queue : List String) : Prop :=
  ∀ a ∈ found, ∀ b, g.DependsOn a b → b ∈ found ∨ b ∈ queue

theorem Gathering.step (gathering : g.Gathering found (label :: queue)) :
    g.Gathering (found.insert label) (queue ++ (g.dependencies label).toList) := by
  intro a member b depends
  rw [SortedSet.mem_insert, List.mem_append]
  rcases SortedSet.mem_insert.mp member with rfl | old
  · exact .inr (.inr (mem_dependencies_iff.mpr depends))
  · rcases gathering a old b depends with seen | queued
    · exact .inl (.inr seen)
    · exact (List.mem_cons.mp queued).imp .inl .inl

theorem Gathering.skip (gathering : g.Gathering found (label :: queue)) (seen : label ∈ found) :
    g.Gathering found queue := by
  intro a member b depends
  rcases gathering a member b depends with old | queued
  · exact .inl old
  · rcases List.mem_cons.mp queued with rfl | queued
    · exact .inl seen
    · exact .inr queued

/-- What the queue may still cost: its labels, and those that the labels not found yet
put into it. -/
def gatherCost (g : Graph) (found : SortedSet String) (queue : List String) : Nat :=
  queue.length + g.unspent (fun label => (g.dependencies label).size) fun label => decide (label ∈ found)

theorem gatherCost_step (known : label ∈ g.nodes) (fresh : label ∉ found) :
    g.gatherCost found (label :: queue) =
      g.gatherCost (found.insert label) (queue ++ (g.dependencies label).toList) + 1 := by
  have spent : g.unspent (fun label => (g.dependencies label).size) (fun other => decide (other ∈ found)) =
      (g.dependencies label).size + g.unspent (fun label => (g.dependencies label).size)
        fun other => decide (other ∈ found.insert label) :=
    unspent_done known (decide_eq_false fresh) (by simp [SortedSet.mem_insert])
  have length : (g.dependencies label).toList.length = (g.dependencies label).size := rfl
  rw [gatherCost, gatherCost, spent, List.length_cons, List.length_append, length]
  omega

@[simp] theorem gather_nil (rounds : Nat) : g.gather rounds found [] = found := by
  cases rounds <;> rfl

theorem gather_nil_closed (gathering : g.Gathering found []) (rounds : Nat) :
    g.ClosedUnder (g.gather rounds found []) ∧
      ∀ label, label ∈ found ∨ label ∈ [] → label ∈ g.gather rounds found [] := by
  rw [gather_nil]
  refine ⟨fun a b depends member => ?_, fun label member => member.resolve_right List.not_mem_nil⟩
  exact (gathering a member b depends).resolve_right List.not_mem_nil

/-- With enough rounds the labels gathered are closed and hold what was found and queued. -/
theorem gather_closed (ends : g.EndsKnown) {rounds : Nat} (gathering : g.Gathering found queue)
    (known : ∀ label ∈ queue, label ∈ g.nodes) (enough : g.gatherCost found queue ≤ rounds) :
    g.ClosedUnder (g.gather rounds found queue) ∧
      ∀ label, label ∈ found ∨ label ∈ queue → label ∈ g.gather rounds found queue := by
  induction rounds generalizing found queue with
  | zero =>
    have done : queue = [] := List.length_eq_zero_iff.mp (by rw [gatherCost] at enough; omega)
    subst done
    exact gather_nil_closed gathering 0
  | succ rounds ih =>
    cases queue with
    | nil => exact gather_nil_closed gathering (rounds + 1)
    | cons label queue =>
      obtain ⟨here, later⟩ := List.forall_mem_cons.mp known
      rw [gather]
      split
      · rename_i seen
        have fewer : g.gatherCost found queue ≤ rounds := by
          rw [gatherCost, List.length_cons] at enough
          rw [gatherCost]
          omega
        obtain ⟨closed, holds⟩ := ih (gathering.skip seen) later fewer
        refine ⟨closed, fun other member => holds other ?_⟩
        rcases member with old | queued
        · exact .inl old
        · exact (List.mem_cons.mp queued).imp (fun same : other = label => same ▸ seen) id
      · rename_i fresh
        rw [gatherCost_step here fresh] at enough
        have inside : ∀ other ∈ queue ++ (g.dependencies label).toList, other ∈ g.nodes := by
          refine List.forall_mem_append.mpr ⟨later, fun d member => ?_⟩
          exact ((mem_dependencies_iff.mp member).known ends).2
        obtain ⟨closed, holds⟩ := ih gathering.step inside (Nat.le_of_succ_le_succ enough)
        refine ⟨closed, fun other member => holds other ?_⟩
        rw [SortedSet.mem_insert, List.mem_append]
        rcases member with old | queued
        · exact .inl (.inr old)
        · rcases List.mem_cons.mp queued with same | queued
          · exact .inl (.inl same)
          · exact .inr (.inl queued)

/-- Only labels that the found and queued ones lead to are gathered. -/
theorem reached_of_mem_gather {rounds : Nat} (member : label ∈ g.gather rounds found queue) :
    ∃ start, (start ∈ found ∨ start ∈ queue) ∧ Relation.ReflTransGen g.DependsOn start label := by
  induction rounds generalizing found queue with
  | zero => exact ⟨label, .inl member, .refl⟩
  | succ rounds ih =>
    cases queue with
    | nil => exact ⟨label, .inl member, .refl⟩
    | cons first queue =>
      rw [gather] at member
      split at member
      · obtain ⟨start, from_, path⟩ := ih member
        exact ⟨start, from_.imp_right (List.mem_cons_of_mem first), path⟩
      · obtain ⟨start, from_, path⟩ := ih member
        rw [SortedSet.mem_insert, List.mem_append] at from_
        rcases from_ with (rfl | old) | queued | dependency
        · exact ⟨start, .inr List.mem_cons_self, path⟩
        · exact ⟨start, .inl old, path⟩
        · exact ⟨start, .inr (List.mem_cons_of_mem first queued), path⟩
        · exact ⟨first, .inr List.mem_cons_self, .head (mem_dependencies_iff.mp dependency) path⟩

theorem ClosedUnder.reaches (closed : g.ClosedUnder s) {start : String} (member : start ∈ s)
    (path : Relation.ReflTransGen g.DependsOn start label) : label ∈ s := by
  induction path with
  | refl => exact member
  | tail _ depends ih => exact closed _ _ depends ih

/-! ### What labels need -/

theorem needed_closed (ends : g.EndsKnown) {labels : SortedSet String}
    (known : ∀ label ∈ labels, label ∈ g.nodes) :
    g.ClosedUnder (g.needed labels) ∧ ∀ label ∈ labels, label ∈ g.needed labels := by
  have enough : g.gatherCost .empty labels.toList ≤ labels.size + g.edges.size := by
    simpa [gatherCost, SortedSet.size] using g.sum_dependencies_le
  have gathering : g.Gathering .empty labels.toList := by simp [Gathering]
  obtain ⟨closed, holds⟩ := gather_closed ends gathering known enough
  exact ⟨closed, fun label member => holds label (.inr member)⟩

/-- Labels need what they lead to. -/
theorem mem_needed (ends : g.EndsKnown) {labels : SortedSet String}
    (known : ∀ label ∈ labels, label ∈ g.nodes) :
    label ∈ g.needed labels ↔ ∃ start ∈ labels, Relation.ReflTransGen g.DependsOn start label := by
  constructor
  · intro member
    obtain ⟨start, from_, path⟩ := reached_of_mem_gather member
    exact ⟨start, from_.resolve_left (SortedSet.not_mem_empty start), path⟩
  · rintro ⟨start, member, path⟩
    obtain ⟨closed, holds⟩ := needed_closed ends known
    exact closed.reaches (holds start member) path

theorem reaches_known (ends : g.EndsKnown) {start : String} (known : start ∈ g.nodes)
    (path : Relation.ReflTransGen g.DependsOn start label) : label ∈ g.nodes := by
  induction path with
  | refl => exact known
  | tail _ depends _ => exact (depends.known ends).2

/-! ### Closures -/

variable {labels : SortedSet String}

theorem mem_edges_restrict {e : Edge} :
    e ∈ (g.restrict s).edges ↔ e ∈ g.edges ∧ e.dependent ∈ s ∧ e.dependency ∈ s := by
  simp [restrict]

theorem closure_eq_ok_iff {part : Graph} : g.closure labels = .ok part ↔
    (∀ label ∈ labels, label ∈ g.nodes) ∧ part = g.restrict (g.needed labels) := by
  have all : (labels.toList.find? fun label => !g.contains label) = none ↔
      ∀ label ∈ labels, label ∈ g.nodes := by
    simp [List.find?_eq_none, contains_iff, SortedSet.mem_toList]
  rw [← all, closure]
  split
  · simp [*]
  · simp [*, eq_comm]

theorem isLeast_of_find? {missing : String}
    (found : (labels.toList.find? fun label => !g.contains label) = some missing) :
    IsLeast {label | label ∈ labels ∧ label ∉ g.nodes} missing := by
  obtain ⟨unknown, before, after, split, known⟩ := List.find?_eq_some_iff_append.mp found
  have member : missing ∈ labels := SortedSet.mem_toList.mp (by simp [split])
  refine ⟨⟨member, by simpa [← contains_iff] using unknown⟩, ?_⟩
  rintro other ⟨member, unknown⟩
  rw [← SortedSet.mem_toList, split, List.mem_append, List.mem_cons] at member
  rcases member with first | rfl | later
  · have present := known other first
    simp [contains_iff, unknown] at present
  · exact le_refl _
  · have ascending := labels.ascending
    rw [split] at ascending
    have less := (List.pairwise_cons.mp (List.pairwise_append.mp ascending).2.1).1 other later
    exact le_of_lt (compare_lt_iff_lt.mp less)

/-- A closure is refused for the least label that the graph does not have. -/
theorem closure_eq_error_iff {fault : Error} : g.closure labels = .error fault ↔
    ∃ missing, IsLeast {label | label ∈ labels ∧ label ∉ g.nodes} missing ∧
      fault = .graph (.unknownLabel missing) [missing] := by
  rw [closure]
  split
  · rename_i missing found
    have least := isLeast_of_find? found
    constructor
    · intro refused
      cases refused
      exact ⟨missing, least, rfl⟩
    · rintro ⟨other, leastToo, rfl⟩
      rw [least.unique leastToo]
  · rename_i none
    constructor
    · intro refused
      cases refused
    · rintro ⟨missing, ⟨⟨member, unknown⟩, -⟩, -⟩
      have known := List.find?_eq_none.mp none missing member
      simp [contains_iff, unknown] at known

/-- The part of a graph that some labels need is its restriction to a set of its
labels that holds all they depend on. -/
theorem closure_ok {part : Graph} (ends : g.EndsKnown) (closed : g.closure labels = .ok part) :
    ∃ s, part = g.restrict s ∧ (∀ label ∈ s, label ∈ g.nodes) ∧ g.ClosedUnder s := by
  obtain ⟨known, rfl⟩ := closure_eq_ok_iff.mp closed
  refine ⟨_, rfl, fun label member => ?_, (needed_closed ends known).1⟩
  obtain ⟨start, from_, path⟩ := (mem_needed ends known).mp member
  exact reaches_known ends (known start from_) path

end Graph

end TaskPlan
