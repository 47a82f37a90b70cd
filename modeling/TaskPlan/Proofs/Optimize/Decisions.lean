import TaskPlan.Proofs.Optimize.Reachable

/-!
# What an optimization gives

Every task of the input is decided once, the kept tasks survive, and the kept and
the replaced tasks have final ids. `OptimizedGraph.Settles` collects what decisions,
surviving graph and ids have to do with each other after an optimization, and
`settled_settles` proves it of any consistent decisions.
-/

namespace TaskPlan

namespace TaskIds

/-- Ids at different positions are different, whatever the labels. -/
def Distinct (ids : TaskIds) : Prop := ∀ i j a b, ids i a = ids j b → i = j

theorem sequential_distinct (beginning : String) : (sequential beginning).Distinct := by
  intro i j _ _ same
  rw [sequential, sequential, String.append_right_inj] at same
  exact Nat.repr_inj.mp same

end TaskIds

namespace Optimize

variable {ids : TaskIds} {input : TaskGraph} {decisions : String → Decision} {label : String}

/-! ### Final ids -/

def keptOf (decisions : String → Decision) (order : List String) : List String :=
  order.filter fun label => decisions label == .keep

theorem map_fst_finalIds (position : Nat) (order : List String) :
    (finalIds ids decisions position order).map Prod.fst =
      order.filter fun label => decisions label != .removed := by
  induction order generalizing position with
  | nil => rfl
  | cons label rest ih =>
    rw [finalIds]
    cases decided : decisions label with
    | keep => simp [decided, ih]
    | replaced taskId => simp [decided, ih]
    | removed => simp [decided, ih]

theorem keptOf_cons_keep {first : String} {rest : List String} (kept : decisions first = .keep) :
    keptOf decisions (first :: rest) = first :: keptOf decisions rest := by
  simp [keptOf, kept]

theorem keptOf_cons_gone {first : String} {rest : List String} (gone : decisions first ≠ .keep) :
    keptOf decisions (first :: rest) = keptOf decisions rest := by
  simp [keptOf, gone]

theorem replaced_mem_cons {first id : String} {rest : List String}
    (other : decisions first ≠ .replaced id) :
    label ∈ first :: rest ∧ decisions label = .replaced id ↔
      label ∈ rest ∧ decisions label = .replaced id := by
  refine and_congr_left fun replaced => ?_
  rw [List.mem_cons, or_iff_right]
  rintro rfl
  exact other replaced

/-- A replaced label has the id that takes its place, a kept one the id of its
position among those that are kept. -/
theorem mem_finalIds {position : Nat} {order : List String} {id : String} :
    (label, id) ∈ finalIds ids decisions position order ↔
      (label ∈ order ∧ decisions label = .replaced id) ∨
        ∃ i : Nat, (keptOf decisions order)[i]? = some label ∧ ids (position + i) label = id := by
  induction order generalizing position with
  | nil => simp [finalIds, keptOf]
  | cons first rest ih =>
    rw [finalIds]
    cases decided : decisions first with
    | removed =>
      rw [keptOf_cons_gone (by simp [decided]), replaced_mem_cons (by simp [decided])]
      exact ih
    | replaced taskId =>
      rw [keptOf_cons_gone (by simp [decided]), List.mem_cons, ih, Prod.mk.injEq, ← or_assoc]
      refine or_congr_left ?_
      constructor
      · rintro (⟨rfl, rfl⟩ | ⟨member, replaced⟩)
        · exact ⟨List.mem_cons_self, decided⟩
        · exact ⟨List.mem_cons_of_mem _ member, replaced⟩
      · rintro ⟨member, replaced⟩
        rcases List.mem_cons.mp member with rfl | member
        · cases decided.symm.trans replaced
          exact .inl ⟨rfl, rfl⟩
        · exact .inr ⟨member, replaced⟩
    | keep =>
      rw [keptOf_cons_keep decided, replaced_mem_cons (by simp [decided]), List.mem_cons, ih,
        Prod.mk.injEq, or_left_comm]
      refine or_congr_right ?_
      -- the places of the kept labels after the first move on by one
      constructor
      · rintro (⟨rfl, rfl⟩ | ⟨i, found, same⟩)
        · exact ⟨0, rfl, rfl⟩
        · exact ⟨i + 1, found, by rw [← same, Nat.add_right_comm, Nat.add_assoc]⟩
      · rintro ⟨i, found, same⟩
        cases i with
        | zero =>
          cases found
          exact .inl ⟨rfl, same.symm⟩
        | succ i => exact .inr ⟨i, found, by rw [← same, Nat.add_right_comm, Nat.add_assoc]⟩

/-! ### Counts -/

theorem count_decisions (decided : List Decision) :
    (decided.filter fun decision => decision == .keep).length +
      (decided.filter fun
        | .replaced _ => true
        | _ => false).length +
      (decided.filter fun decision => decision == .removed).length = decided.length := by
  induction decided with
  | nil => rfl
  | cons first rest ih =>
    cases first with
    | keep => simp [← ih]; omega
    | replaced taskId => simp [← ih]; omega
    | removed => simp [← ih]; omega

theorem counts_add_up (out : OptimizedGraph) :
    out.kept + out.replaced + out.removed = out.decisions.keys.length := by
  have decided := count_decisions out.decisions.values
  rw [KeyMap.values, List.length_map] at decided
  rw [KeyMap.keys, List.length_map, ← decided]
  rfl

/-! ### Ids of dependencies -/

theorem internalIds_eq {out : OptimizedGraph} {entries : List (String × String)}
    (all : ∀ entry ∈ entries, ∃ id, out.taskIds.get? entry.2 = some id) :
    out.internalIds label entries = .ok (entries.filterMap fun entry =>
      (out.taskIds.get? entry.2).map fun id => (entry.1, id)) := by
  induction entries with
  | nil => rfl
  | cons entry rest ih =>
    obtain ⟨name, dependency⟩ := entry
    obtain ⟨id, found⟩ := all _ List.mem_cons_self
    have others := ih fun entry member => all entry (List.mem_cons_of_mem _ member)
    rw [OptimizedGraph.internalIds, found, others, List.filterMap_cons, found]
    rfl

theorem dependencyIds_ok {out : OptimizedGraph} (all : ∀ name dependency,
    (out.graph.dependencies label).get? name = some dependency →
      ∃ id, out.taskIds.get? dependency = some id) :
    ∃ ids, out.dependencyIds label = .ok ids ∧ ∀ name, ids.get? name =
      (((out.graph.dependencies label).get? name).bind out.taskIds.get?).or
        ((out.graph.externalOf label).get? name) := by
  have found : out.internalIds label (out.graph.dependencies label).toList = .ok _ :=
    internalIds_eq fun entry member => all entry.1 entry.2 (KeyMap.mem_toList_iff.mp member)
  refine ⟨_, by rw [OptimizedGraph.dependencyIds, found]; rfl, fun name => ?_⟩
  rw [KeyMap.get?_ofList_append, KeyMap.get?_ofList_toList, KeyMap.get?_ofList_filterMap]

/-! ### The maps of a run -/

section Settled

variable (sound : input.Sound) (consistent : Consistent input decisions)
include sound

theorem get?_decisions_settled :
    (settled ids input decisions).decisions.get? label =
      if label ∈ input.graph.nodes then some (decisions label) else none := by
  rw [settled, KeyMap.get?_ofList_labelled]
  simp only [sound.mem_postorder]

theorem keys_decisions_settled :
    (settled ids input decisions).decisions.keys = input.labels := by
  apply KeyMap.keys_eq
  intro label
  rw [KeyMap.mem_keys_iff, KeyMap.mem_keys_iff, get?_decisions_settled sound, ← TaskGraph.get?,
    ← sound.known label]
  split <;> simp [*]

theorem get?_taskIds_settled {id : String} :
    (settled ids input decisions).taskIds.get? label = some id ↔
      (label ∈ input.graph.nodes ∧ decisions label = .replaced id) ∨
        ∃ i : Nat, (keptOf decisions input.graph.postorder)[i]? = some label ∧ ids i label = id := by
  rw [settled, KeyMap.get?_ofList_iff, mem_finalIds, sound.mem_postorder]
  · simp only [Nat.zero_add]
  · rw [map_fst_finalIds]
    exact (Graph.nodup_postorder sound.acyclic sound.ends).filter _

theorem keep_settled_iff (label : String) :
    (settled ids input decisions).decisions.get? label = some .keep ↔
      decisions label = .keep ∧ label ∈ input.graph.nodes := by
  rw [get?_decisions_settled sound]
  split <;> simp [*]

theorem mem_keptOf :
    label ∈ keptOf decisions input.graph.postorder ↔
      decisions label = .keep ∧ label ∈ input.graph.nodes := by
  rw [keptOf, List.mem_filter, sound.mem_postorder, and_comm, beq_iff_eq]

theorem exists_place (kept : decisions label = .keep ∧ label ∈ input.graph.nodes) :
    ∃ i : Nat, (keptOf decisions input.graph.postorder)[i]? = some label :=
  List.mem_iff_getElem?.mp ((mem_keptOf sound).mpr kept)

theorem get?_taskIds_kept {i : Nat}
    (place : (keptOf decisions input.graph.postorder)[i]? = some label) :
    (settled ids input decisions).taskIds.get? label = some (ids i label) :=
  (get?_taskIds_settled sound).mpr (.inr ⟨i, place, rfl⟩)

/-- Kept tasks have different ids. -/
theorem taskIds_kept_inj (distinct : ids.Distinct) {a b : String}
    (kept : decisions a = .keep ∧ a ∈ input.graph.nodes)
    (keptToo : decisions b = .keep ∧ b ∈ input.graph.nodes)
    (same : (settled ids input decisions).taskIds.get? a = (settled ids input decisions).taskIds.get? b) :
    a = b := by
  obtain ⟨i, atA⟩ := exists_place sound kept
  obtain ⟨j, atB⟩ := exists_place sound keptToo
  rw [get?_taskIds_kept sound atA, get?_taskIds_kept sound atB] at same
  cases distinct i j a b (Option.some.inj same)
  exact Option.some.inj (atA.symm.trans atB)

include consistent

theorem decisions_settled_iff {decision : Decision} (gone : decision ≠ .keep) :
    (settled ids input decisions).decisions.get? label = some decision ↔
      decisions label = decision := by
  rw [get?_decisions_settled sound]
  constructor
  · intro found
    split at found
    · exact Option.some.inj found
    · cases found
  · intro decided
    rw [if_pos, decided]
    by_contra unknown
    exact gone (decided.symm.trans (consistent.within label unknown))

theorem get?_taskIds_replaced {id : String} (replaced : decisions label = .replaced id) :
    (settled ids input decisions).taskIds.get? label = some id := by
  refine (get?_taskIds_settled sound).mpr (.inl ⟨?_, replaced⟩)
  by_contra unknown
  rw [consistent.within label unknown] at replaced
  cases replaced

theorem contains_taskIds_settled :
    (settled ids input decisions).taskIds.contains label = true ↔
      ∃ decision, (settled ids input decisions).decisions.get? label = some decision ∧
        decision ≠ .removed := by
  rw [KeyMap.contains_iff]
  constructor
  · rintro ⟨id, final⟩
    rcases (get?_taskIds_settled sound).mp final with ⟨-, replaced⟩ | ⟨i, place, -⟩
    · exact ⟨.replaced id, (decisions_settled_iff sound consistent (by simp)).mpr replaced, by simp⟩
    · exact ⟨.keep, (keep_settled_iff sound label).mpr ((mem_keptOf sound).mp (List.mem_of_getElem? place)),
        by simp⟩
  · rintro ⟨decision, decided, stays⟩
    cases decision with
    | keep =>
      obtain ⟨i, place⟩ := exists_place sound ((keep_settled_iff sound label).mp decided)
      exact ⟨_, get?_taskIds_kept sound place⟩
    | replaced id =>
      have replaced := (decisions_settled_iff sound consistent (by simp)).mp decided
      exact ⟨id, get?_taskIds_replaced sound consistent replaced⟩
    | removed => exact absurd rfl stays

/-- Every dependency that a kept task declares has a final id: of the dependency, or
the one it had in the input. -/
theorem dependencyIds_settled {task : Task}
    (found : (settled ids input decisions).graph.get? label = some task) :
    ∃ found, (settled ids input decisions).dependencyIds label = .ok found ∧
      (∀ name, found.contains name = task.dependencies.contains name) ∧
      (∀ name dependency, (⟨label, dependency, name⟩ : Edge) ∈ input.graph.edges →
        found.get? name = (settled ids input decisions).taskIds.get? dependency) ∧
      ∀ name id, (input.externalOf label).get? name = some id → found.get? name = some id := by
  have after := consistent.rebuilt_sound sound
  have kept := (TaskGraph.get?_rebuilt.mp found).1
  have all : ∀ name dependency, ((input.rebuilt decisions).dependencies label).get? name = some dependency →
      ∃ id, (settled ids input decisions).taskIds.get? dependency = some id := by
    intro name dependency edge
    obtain ⟨old, -, keptToo⟩ := TaskGraph.mem_edges_rebuilt.mp (after.get?_dependencies.mp edge)
    obtain ⟨i, place⟩ := exists_place sound ⟨keptToo, (sound.ends _ old).2⟩
    exact ⟨_, get?_taskIds_kept sound place⟩
  obtain ⟨got, ok, get?_got⟩ : ∃ got, (settled ids input decisions).dependencyIds label = .ok got ∧
      ∀ name, got.get? name = ((((input.rebuilt decisions).dependencies label).get? name).bind
        (settled ids input decisions).taskIds.get?).or
          (TaskGraph.idUnder (input.rebuilt decisions).external label name) := by
    simp only [← TaskGraph.get?_externalOf]
    exact dependencyIds_ok all
  have external {name id : String}
      (under : TaskGraph.idUnder (input.rebuilt decisions).external label name = some id) :
      got.get? name = some id := by
    rw [get?_got, after.get?_dependencies_eq_none under, under]
    rfl
  refine ⟨got, ok, ?_, ?_, ?_⟩
  · intro name
    rw [after.contains_declared found, KeyMap.contains, get?_got, KeyMap.contains, KeyMap.contains,
      TaskGraph.get?_externalOf]
    cases edge : ((input.rebuilt decisions).dependencies label).get? name with
    | none => rfl
    | some dependency =>
      obtain ⟨id, final⟩ := all name dependency edge
      rw [Option.bind_some, final]
      rfl
  · intro name dependency member
    cases decided : decisions dependency with
    | keep =>
      have edge := TaskGraph.mem_edges_rebuilt.mpr ⟨member, kept, decided⟩
      rw [get?_got, after.get?_dependencies.mpr edge, after.idUnder_of_edge edge, Option.bind_some,
        Option.or_none]
    | replaced id =>
      rw [get?_taskIds_replaced sound consistent decided]
      apply external
      rw [TaskGraph.idUnder_rebuilt sound, if_pos kept, sound.get?_dependencies.mpr member,
        Option.bind_some, decided]
      rfl
    | removed =>
      have lost := consistent.closed label dependency ⟨name, member⟩ decided
      rw [kept] at lost
      cases lost
  · intro name id before
    rw [TaskGraph.get?_externalOf] at before
    apply external
    rw [TaskGraph.idUnder_rebuilt sound, if_pos kept, sound.get?_dependencies_eq_none before, before]
    rfl

theorem external_settled (label name id : String) :
    ((settled ids input decisions).graph.externalOf label).get? name = some id ↔
      (settled ids input decisions).decisions.get? label = some .keep ∧
        ((input.externalOf label).get? name = some id ∨
          ∃ dependency, (⟨label, dependency, name⟩ : Edge) ∈ input.graph.edges ∧
            (settled ids input decisions).decisions.get? dependency = some (.replaced id)) := by
  have replaced_iff (dependency : String) :
      (settled ids input decisions).decisions.get? dependency = some (.replaced id) ↔
        decisions dependency = .replaced id := decisions_settled_iff sound consistent (by simp)
  rw [TaskGraph.get?_externalOf, TaskGraph.get?_externalOf, keep_settled_iff sound]
  simp only [replaced_iff]
  change TaskGraph.idUnder (input.rebuilt decisions).external label name = some id ↔ _
  rw [TaskGraph.idUnder_rebuilt sound]
  by_cases kept : decisions label = .keep
  · rw [if_pos kept, Option.or_eq_some_iff, Option.bind_eq_some_iff]
    constructor
    · rintro (⟨dependency, edge, taken⟩ | ⟨-, before⟩)
      · have member := sound.get?_dependencies.mp edge
        exact ⟨⟨kept, (sound.ends _ member).1⟩,
          .inr ⟨dependency, member, Decision.taskId?_eq_some.mp taken⟩⟩
      · obtain ⟨task, _, found, -⟩ := sound.replaced label name id before
        exact ⟨⟨kept, (sound.known label).mpr ⟨task, found⟩⟩, .inl before⟩
    · rintro ⟨-, before | ⟨dependency, member, decided⟩⟩
      · refine .inr ⟨?_, before⟩
        rw [sound.get?_dependencies_eq_none before]
        rfl
      · exact .inl ⟨dependency, sound.get?_dependencies.mpr member,
          Decision.taskId?_eq_some.mpr decided⟩
  · simp [kept]

theorem carryOut_any_order {order : List (String × Decision)}
    (perm : order.Perm ((settled ids input decisions).decisions.toList.filter fun entry =>
      entry.2 != .keep)) :
    order.foldlM (fun g entry => g.carryOut entry.1 entry.2) input =
      .ok (input.rebuilt decisions) := by
  have taken {label : String} {decision : Decision} (member : (label, decision) ∈ order) :
      (settled ids input decisions).decisions.get? label = some decision ∧ decision ≠ .keep := by
    obtain ⟨entry, gone⟩ := List.mem_filter.mp (perm.mem_iff.mp member)
    exact ⟨KeyMap.mem_toList_iff.mp entry, by simpa using gone⟩
  conv_lhs => rw [← TaskGraph.rebuilt_keep sound]
  apply TaskGraph.foldlM_carryOut sound
  · refine (perm.map Prod.fst).nodup_iff.mpr ?_
    exact (List.filter_sublist.map Prod.fst).nodup (KeyMap.keys_nodup _)
  · intro _ member
    obtain ⟨⟨label, decision⟩, entry, rfl⟩ := List.mem_map.mp member
    refine ⟨KeyMap.mem_keys.mp ?_, rfl⟩
    have decided : label ∈ (settled ids input decisions).decisions.keys :=
      KeyMap.mem_keys_iff.mpr ⟨decision, (taken entry).1⟩
    rwa [keys_decisions_settled sound] at decided
  · rintro ⟨label, decision⟩ member
    obtain ⟨decided, gone⟩ := taken member
    exact (decisions_settled_iff sound consistent gone).mp decided
  · intro label absent
    by_contra gone
    have decided : (settled ids input decisions).decisions.get? label = some (decisions label) :=
      (decisions_settled_iff sound consistent gone).mpr rfl
    refine absent (List.mem_map.mpr ⟨(label, decisions label), perm.mem_iff.mpr ?_, rfl⟩)
    exact List.mem_filter.mpr ⟨KeyMap.mem_toList_iff.mpr decided, by simpa using gone⟩

end Settled

end Optimize

/-! ### The whole outcome -/

/-- What an optimization with counted ids leaves of a graph. -/
structure OptimizedGraph.Settles (beginning : String) (input : TaskGraph) (out : OptimizedGraph) :
    Prop where
  decided : out.decisions.keys = input.labels
  survivors : ∀ label task, out.graph.get? label = some task ↔
    out.decisions.get? label = some .keep ∧ input.get? label = some task
  graph : out.graph = input.rebuilt fun label => (out.decisions.get? label).getD .keep
  /-- the removed and the replaced tasks may be taken out in any order -/
  anyOrder : ∀ order : List (String × Decision),
    order.Perm (out.decisions.toList.filter fun entry => entry.2 != .keep) →
      order.foldlM (fun g entry => g.carryOut entry.1 entry.2) input = .ok out.graph
  nodes : ∀ label, label ∈ out.graph.graph.nodes ↔ out.decisions.get? label = some .keep
  edges : ∀ e, e ∈ out.graph.graph.edges ↔ e ∈ input.graph.edges ∧
    out.decisions.get? e.dependent = some .keep ∧ out.decisions.get? e.dependency = some .keep
  external : ∀ label name id, (out.graph.externalOf label).get? name = some id ↔
    out.decisions.get? label = some .keep ∧ ((input.externalOf label).get? name = some id ∨
      ∃ dependency, (⟨label, dependency, name⟩ : Edge) ∈ input.graph.edges ∧
        out.decisions.get? dependency = some (.replaced id))
  final : ∀ label, out.taskIds.contains label = true ↔
    ∃ decision, out.decisions.get? label = some decision ∧ decision ≠ .removed
  replacedId : ∀ label id, out.decisions.get? label = some (.replaced id) →
    out.taskIds.get? label = some id
  keptId : ∀ (i : Nat) label,
    (input.graph.postorder.filter fun label => out.decisions.get? label == some .keep)[i]? = some label →
      out.taskIds.get? label = some (beginning ++ toString i)
  keptId_inj : ∀ a b, out.decisions.get? a = some .keep → out.decisions.get? b = some .keep →
    out.taskIds.get? a = out.taskIds.get? b → a = b
  counted : out.kept + out.replaced + out.removed = input.size
  /-- each declared dependency has a final id, its own or the one it had in the input -/
  dependencyIds : ∀ label task, out.graph.get? label = some task →
    ∃ ids, out.dependencyIds label = .ok ids ∧
      (∀ name, ids.contains name = task.dependencies.contains name) ∧
      (∀ name dependency, (⟨label, dependency, name⟩ : Edge) ∈ input.graph.edges →
        ids.get? name = out.taskIds.get? dependency) ∧
      ∀ name id, (input.externalOf label).get? name = some id → ids.get? name = some id

namespace Optimize

variable {registry : Registry} {params : OptimizeParams} {input : TaskGraph} {index : Index}
  {decisions : String → Decision}

theorem settled_settles (sound : input.Sound) (consistent : Consistent input decisions)
    (beginning : String) :
    (settled (.sequential beginning) input decisions).Settles beginning input := by
  set out := settled (.sequential beginning) input decisions with outcome
  have keep_iff (label : String) : out.decisions.get? label = some .keep ↔
      decisions label = .keep ∧ label ∈ input.graph.nodes := keep_settled_iff sound label
  have kept_eq : (input.graph.postorder.filter fun label => out.decisions.get? label == some .keep) =
      keptOf decisions input.graph.postorder := by
    apply List.filter_congr
    intro label member
    rw [Bool.eq_iff_iff, beq_iff_eq, beq_iff_eq, keep_iff]
    exact and_iff_left (sound.mem_postorder.mp member)
  refine {
    decided := keys_decisions_settled sound
    survivors := ?_
    graph := ?_
    anyOrder := fun order perm => carryOut_any_order sound consistent perm
    nodes := fun label => TaskGraph.mem_nodes_rebuilt.trans (keep_iff label).symm
    edges := ?_
    external := external_settled sound consistent
    final := fun label => contains_taskIds_settled sound consistent
    replacedId := ?_
    keptId := fun i label place => get?_taskIds_kept sound (kept_eq ▸ place)
    keptId_inj := ?_
    counted := ?_
    dependencyIds := fun label task found => dependencyIds_settled sound consistent found }
  · intro label task
    refine TaskGraph.get?_rebuilt.trans ?_
    rw [keep_iff]
    refine and_congr_left fun found => (and_iff_left ?_).symm
    exact (sound.known label).mpr ⟨task, found⟩
  · refine congrArg input.rebuilt (funext fun label => ?_)
    rw [get?_decisions_settled sound]
    split
    · rfl
    · exact consistent.within label ‹_›
  · intro e
    refine TaskGraph.mem_edges_rebuilt.trans (and_congr_right fun member => ?_)
    obtain ⟨dependent, dependency⟩ := sound.ends e member
    rw [keep_iff, keep_iff, and_iff_left dependent, and_iff_left dependency]
  · intro label id decided
    have replaced := (decisions_settled_iff sound consistent (by simp)).mp decided
    exact get?_taskIds_replaced sound consistent replaced
  · intro a b kept keptToo same
    exact taskIds_kept_inj sound (TaskIds.sequential_distinct beginning) ((keep_iff a).mp kept)
      ((keep_iff b).mp keptToo) same
  · rw [counts_add_up, keys_decisions_settled sound, TaskGraph.labels, KeyMap.keys, List.length_map]
    rfl

/-- A successful optimization of a reachable graph decides every task once, leaves the
graph that its decisions rebuild, and gives final ids to the tasks that are kept or
replaced, so that every task that survives finds those of its dependencies. -/
theorem optimize_settles (reachable : input.Reachable) {beginning : String} {out : OptimizedGraph}
    (ran : ((optimize registry (.sequential beginning) params input).run index .empty).1 = .ok out) :
    out.Settles beginning input := by
  obtain ⟨removed, replaced, removals, replacements, rfl⟩ :=
    optimize_gives reachable.sound ⟨.empty, ran⟩
  exact settled_settles reachable.sound
    (decisionOf_consistent reachable.sound removals replacements) beginning

/-- The task that uses a replaced image is kept as the first one. -/
theorem optimize_settles_image :
    ∃ (input : TaskGraph) (out : OptimizedGraph), input.labels = ["image", "use"] ∧
      out.decisions.toList = [("image", .replaced "T"), ("use", .keep)] ∧
      out.taskIds.toList = [("image", "T"), ("use", "t0")] ∧ out.Settles "t" input := by
  obtain ⟨input, built, h⟩ := exists_ok (x := TaskGraph.ofTasks TaskGraph.imageAndUse)
    (p := fun input => input.labels = ["image", "use"] ∧
      ((optimize .standard (.sequential "t") .empty input).run TaskGraph.imageIndex .empty).1.toOption.any
        fun out => out.decisions.toList = [("image", .replaced "T"), ("use", .keep)] ∧
          out.taskIds.toList = [("image", "T"), ("use", "t0")])
    (by decide +kernel)
  obtain ⟨labels, h⟩ := of_decide_eq_true h
  obtain ⟨out, ran, h⟩ := exists_ok h
  obtain ⟨decisions, taskIds⟩ := of_decide_eq_true h
  exact ⟨input, out, labels, decisions, taskIds, optimize_settles (.built built) ran⟩

end Optimize

end TaskPlan
