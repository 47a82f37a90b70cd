import TaskPlan.Graph.Cycle
import TaskPlan.Proofs.Graph.Dependency

/-!
# The way back to a label

A breadth-first search comes upon labels in the order of their distance to its start. What
it has come upon lies in the queue or has been expanded, and the parents lead back to the
start one step at a time (`Searching`). So the way back that it finds is a simple one, and
there is none that is shorter (`searchBack_some`); if it finds none, there is none within
the labels that it is confined to (`searchBack_none`).
-/

namespace TaskPlan

namespace Graph

variable {g : Graph} {start label : String} {inside : SortedSet String} {parents : KeyMap String}
  {queue : List String} {depth : String → Nat} {level rounds : Nat}

/-- The search has come upon the label. -/
def Seen (start : String) (parents : KeyMap String) (label : String) : Prop :=
  label = start ∨ ∃ parent, parents.get? label = some parent

/-- What the search keeps of the labels that it has come upon and of their distances to
its start. -/
structure Searching (g : Graph) (start : String) (inside : SortedSet String) (depth : String → Nat)
    (parents : KeyMap String) (queue : List String) (level : Nat) : Prop where
  root : depth start = 0
  parent : ∀ label prev, parents.get? label = some prev →
    label ≠ start ∧ g.DependsOn label prev ∧ Seen start parents prev ∧ depth label = depth prev + 1
  queued : ∀ label ∈ queue, Seen start parents label
  expanded : ∀ label, Seen start parents label → label ∈ queue ∨
    ∀ d ∈ inside, g.DependsOn d label → d ≠ start ∧ Seen start parents d ∧ depth d ≤ depth label + 1
  sorted : queue.Pairwise fun a b => depth a ≤ depth b
  level_le : ∀ label ∈ queue, level ≤ depth label
  le_level : ∀ label, Seen start parents label → depth label ≤ level + 1

theorem searching_start : g.Searching start inside (fun _ => 0) .empty [start] 0 where
  root := rfl
  parent label prev found := nomatch found
  queued label member := .inl (List.mem_singleton.mp member)
  expanded label seen := by
    rcases seen with rfl | ⟨parent, found⟩
    · exact .inl List.mem_cons_self
    · cases found
  sorted := List.pairwise_singleton _ _
  level_le _ _ := Nat.zero_le _
  le_level _ _ := Nat.zero_le _

/-! ### One round -/

/-- The labels that are come upon when a label is expanded. -/
def fresh (g : Graph) (inside : SortedSet String) (parents : KeyMap String) (label : String) :
    List String :=
  (g.dependents label).toList.filter fun d => decide (d ∈ inside) && !parents.contains d

theorem mem_fresh {d : String} : d ∈ g.fresh inside parents label ↔
    g.DependsOn d label ∧ d ∈ inside ∧ parents.get? d = none := by
  simp [fresh, SortedSet.mem_toList, mem_dependents_iff, KeyMap.contains]

/-- A label is the parent of all that are come upon from it. -/
def adopt (parents : KeyMap String) (label : String) (fresh : List String) : KeyMap String :=
  fresh.foldl (fun parents d => parents.insert d label) parents

theorem get?_adopt (parents : KeyMap String) (label : String) (fresh : List String) (other : String) :
    (adopt parents label fresh).get? other =
      if other ∈ fresh then some label else parents.get? other := by
  induction fresh generalizing parents with
  | nil => rfl
  | cons first rest ih =>
    have step : adopt parents label (first :: rest) = adopt (parents.insert first label) label rest := rfl
    rw [step, ih, KeyMap.get?_insert]
    by_cases later : other ∈ rest
    · simp [later]
    · by_cases same : first = other
      · simp [same]
      · simp [later, same, Ne.symm same]

theorem seen_adopt {fresh : List String} {other : String} :
    Seen start (adopt parents label fresh) other ↔ other ∈ fresh ∨ Seen start parents other := by
  rw [Seen, Seen, get?_adopt]
  by_cases member : other ∈ fresh <;> simp [member]

theorem Searching.step (searching : g.Searching start inside depth parents (label :: queue) level)
    (noWay : ¬ g.DependsOn start label) : ∃ depth',
    g.Searching start inside depth' (adopt parents label (g.fresh inside parents label))
      (queue ++ g.fresh inside parents label) (depth label) := by
  obtain ⟨far, sorted⟩ := List.pairwise_cons.mp searching.sorted
  obtain ⟨seen, queued⟩ := List.forall_mem_cons.mp searching.queued
  have apart (d : String) (isFresh : d ∈ g.fresh inside parents label) : ¬ Seen start parents d := by
    obtain ⟨depends, -, absent⟩ := mem_fresh.mp isFresh
    rintro (rfl | ⟨parent, found⟩)
    · exact noWay depends
    · rw [absent] at found
      cases found
  let depth' (other : String) : Nat :=
    if other ∈ g.fresh inside parents label then depth label + 1 else depth other
  have depth_fresh (d : String) (isFresh : d ∈ g.fresh inside parents label) :
      depth' d = depth label + 1 := if_pos isFresh
  have depth_seen (d : String) (seen : Seen start parents d) : depth' d = depth d :=
    if_neg fun isFresh => apart d isFresh seen
  have near (d : String) (seen : Seen start parents d) : depth d ≤ depth label + 1 :=
    Nat.le_trans (searching.le_level d seen)
      (Nat.succ_le_succ (searching.level_le label List.mem_cons_self))
  refine ⟨depth', ?_⟩
  exact {
    root := (depth_seen start (.inl rfl)).trans searching.root
    parent := fun d prev found => by
      rw [get?_adopt] at found
      split at found
      · rename_i isFresh
        cases found
        refine ⟨fun same => apart d isFresh (.inl same), (mem_fresh.mp isFresh).1, ?_, ?_⟩
        · exact seen_adopt.mpr (.inr seen)
        · rw [depth_fresh d isFresh, depth_seen label seen]
      · obtain ⟨other, depends, known, deeper⟩ := searching.parent d prev found
        refine ⟨other, depends, seen_adopt.mpr (.inr known), ?_⟩
        rw [depth_seen d (.inr ⟨prev, found⟩), depth_seen prev known, deeper]
    queued := fun d member => seen_adopt.mpr ((List.mem_append.mp member).symm.imp id (queued d))
    expanded := fun other seenNow => by
      rcases seen_adopt.mp seenNow with isFresh | seenBefore
      · exact .inl (List.mem_append_right _ isFresh)
      rw [depth_seen other seenBefore]
      rcases searching.expanded other seenBefore with waits | done
      · rcases List.mem_cons.mp waits with rfl | waits
        · refine .inr fun d member depends => ?_
          refine ⟨fun same => noWay (same ▸ depends), ?_⟩
          by_cases isFresh : d ∈ g.fresh inside parents other
          · exact ⟨seen_adopt.mpr (.inl isFresh), Nat.le_of_eq (depth_fresh d isFresh)⟩
          · have known : Seen start parents d := by
              by_contra unseen
              have absent : parents.get? d = none :=
                Option.eq_none_iff_forall_ne_some.mpr fun p found => unseen (.inr ⟨p, found⟩)
              exact isFresh (mem_fresh.mpr ⟨depends, member, absent⟩)
            exact ⟨seen_adopt.mpr (.inr known), depth_seen d known ▸ near d known⟩
        · exact .inl (List.mem_append_left _ waits)
      · refine .inr fun d member depends => ?_
        obtain ⟨away, known, close⟩ := done d member depends
        exact ⟨away, seen_adopt.mpr (.inr known), depth_seen d known ▸ close⟩
    sorted := by
      refine List.pairwise_append.mpr ⟨?_, ?_, ?_⟩
      · refine sorted.imp_of_mem fun {a b} left right less => ?_
        rwa [depth_seen a (queued a left), depth_seen b (queued b right)]
      · refine List.pairwise_of_forall_mem_list fun a left b right => ?_
        rw [depth_fresh a left, depth_fresh b right]
      · intro a left b right
        rw [depth_seen a (queued a left), depth_fresh b right]
        exact near a (queued a left)
    level_le := fun d member => by
      rcases List.mem_append.mp member with waits | isFresh
      · rw [depth_seen d (queued d waits)]
        exact far d waits
      · rw [depth_fresh d isFresh]
        exact Nat.le_succ _
    le_level := fun d seenNow => by
      rcases seen_adopt.mp seenNow with isFresh | known
      · exact Nat.le_of_eq (depth_fresh d isFresh)
      · rw [depth_seen d known]
        exact near d known }

/-! ### The way along parents -/

/-- Parents lead from a label that the search has come upon to its start. -/
theorem Searching.exists_way (searching : g.Searching start inside depth parents queue level)
    (seen : Seen start parents label) : ∃ way : List String,
    way.length = depth label ∧ (way ++ [start]).head? = some label ∧
    (way ++ [start]).IsChain (fun a b => g.DependsOn a b ∧ depth a = depth b + 1) ∧
    (∀ other ∈ way, parents.contains other = true) ∧
    ∀ steps, depth label < steps → trail parents start steps label = way := by
  generalize same : depth label = distance
  induction distance generalizing label with
  | zero =>
    have atStart : label = start := by
      refine seen.resolve_right fun ⟨prev, found⟩ => ?_
      have deeper := (searching.parent label prev found).2.2.2
      omega
    refine ⟨[], rfl, by simp [atStart], List.isChain_singleton start, by simp, fun steps some => ?_⟩
    obtain ⟨steps, rfl⟩ := Nat.exists_eq_succ_of_ne_zero (Nat.pos_iff_ne_zero.mp some)
    simp [trail, atStart]
  | succ distance ih =>
    rcases seen with rfl | ⟨prev, found⟩
    · rw [searching.root] at same
      cases same
    obtain ⟨away, depends, known, deeper⟩ := searching.parent label prev found
    obtain ⟨way, length, head, chain, kept, follows⟩ := ih known (by omega)
    refine ⟨label :: way, by rw [List.length_cons, length], rfl, ?_, ?_, fun steps some => ?_⟩
    · refine List.isChain_cons.mpr ⟨fun next isNext => ?_, chain⟩
      obtain rfl : prev = next := Option.some.inj (head.symm.trans isNext)
      exact ⟨depends, deeper⟩
    · exact List.forall_mem_cons.mpr ⟨KeyMap.contains_iff.mpr ⟨prev, found⟩, kept⟩
    · obtain ⟨steps, rfl⟩ := Nat.exists_eq_succ_of_ne_zero (Nat.ne_zero_of_lt some)
      simp [trail, away, found, follows steps (Nat.lt_of_succ_lt_succ some)]

/-- The distance goes down along the way, so no label is on it twice. -/
theorem nodup_of_chain {way : List String}
    (chain : way.IsChain fun a b => g.DependsOn a b ∧ depth a = depth b + 1) : way.Nodup := by
  have falling : way.IsChain fun a b => depth b < depth a := chain.imp fun {a b} step => by omega
  have sorted : way.Pairwise fun a b => depth b < depth a :=
    haveI : IsTrans String fun a b => depth b < depth a := ⟨fun _ _ _ first second => second.trans first⟩
    falling.pairwise
  refine sorted.imp ?_
  rintro a _ less rfl
  exact Nat.lt_irrefl (depth a) less

/-- What a trail is made of. -/
theorem Searching.trail_way (searching : g.Searching start inside depth parents queue level)
    (seen : Seen start parents label) :
    (trail parents start (parents.size + 1) label).length = depth label ∧
    (trail parents start (parents.size + 1) label ++ [start]).head? = some label ∧
    (trail parents start (parents.size + 1) label ++ [start]).IsChain g.DependsOn ∧
    (trail parents start (parents.size + 1) label ++ [start]).Nodup := by
  obtain ⟨way, length, head, chain, kept, follows⟩ := searching.exists_way seen
  have once := nodup_of_chain chain
  -- the labels of the way are different keys
  have short : way.length ≤ parents.keys.length := by
    refine ((List.nodup_append.mp once).1.subperm fun other member => ?_).length_le
    exact KeyMap.mem_keys.mpr (kept other member)
  have size : parents.keys.length = parents.size := List.length_map _
  rw [follows (parents.size + 1) (by omega)]
  exact ⟨length, head, chain.imp fun {a b} step => step.1, once⟩

/-! ### No way is shorter -/

/-- A shorter way than to any label in the queue stays among labels that have been expanded. -/
theorem Searching.expanded_of_chain (searching : g.Searching start inside depth parents queue level)
    {bound : Nat} (far : ∀ label ∈ queue, bound ≤ depth label) {way : List String}
    (within : ∀ label ∈ way, label ∈ inside) (chain : (way ++ [start]).IsChain g.DependsOn)
    (short : way.length < bound) : ∀ label ∈ (way ++ [start]).head?,
      depth label ≤ way.length ∧ Seen start parents label ∧ ∀ d ∈ inside, g.DependsOn d label →
        d ≠ start ∧ Seen start parents d ∧ depth d ≤ depth label + 1 := by
  have expanded (label : String) (near : depth label < bound) (seen : Seen start parents label) :=
    (searching.expanded label seen).resolve_left fun waits => Nat.not_le.mpr near (far label waits)
  induction way with
  | nil =>
    intro label isHead
    cases isHead
    have zero : depth start ≤ 0 := Nat.le_of_eq searching.root
    exact ⟨zero, .inl rfl, expanded start (Nat.lt_of_le_of_lt zero short) (.inl rfl)⟩
  | cons first rest ih =>
    intro label isHead
    cases isHead
    obtain ⟨here, within⟩ := List.forall_mem_cons.mp within
    obtain ⟨leads, chain⟩ := List.isChain_cons.mp chain
    obtain ⟨next, isNext⟩ : ∃ next, next ∈ (rest ++ [start]).head? := by
      cases rest <;> exact ⟨_, rfl⟩
    obtain ⟨near, -, done⟩ := ih within chain (Nat.lt_of_succ_lt short) next isNext
    obtain ⟨-, seen, close⟩ := done first here (leads next isNext)
    have near : depth first ≤ (first :: rest).length := by
      rw [List.length_cons]
      omega
    exact ⟨near, seen, expanded first (Nat.lt_of_le_of_lt near short) seen⟩

/-- No way back is shorter than that to the labels in the queue. -/
theorem Searching.le_of_chain (searching : g.Searching start inside depth parents queue level)
    {bound : Nat} (far : ∀ label ∈ queue, bound ≤ depth label) {way : List String}
    (within : ∀ label ∈ start :: way, label ∈ inside)
    (chain : (start :: (way ++ [start])).IsChain g.DependsOn) : bound ≤ way.length := by
  obtain ⟨here, within⟩ := List.forall_mem_cons.mp within
  obtain ⟨leads, chain⟩ := List.isChain_cons.mp chain
  obtain ⟨next, isNext⟩ : ∃ next, next ∈ (way ++ [start]).head? := by
    cases way <;> exact ⟨_, rfl⟩
  by_contra short
  obtain ⟨-, -, done⟩ := searching.expanded_of_chain far within chain (Nat.not_le.mp short) next isNext
  exact (done start here (leads next isNext)).1 rfl

/-! ### All rounds -/

/-- The way leads from the start back to it through different labels, and none within the
given labels is shorter. -/
structure ShortestBack (g : Graph) (start : String) (inside : SortedSet String) (way : List String) :
    Prop where
  leads : (start :: (way ++ [start])).IsChain g.DependsOn
  once : (start :: way).Nodup
  least : ∀ other : List String, (∀ label ∈ start :: other, label ∈ inside) →
    (start :: (other ++ [start])).IsChain g.DependsOn → way.length ≤ other.length

theorem searchBack_some (searching : g.Searching start inside depth parents queue level)
    {way : List String} (found : g.searchBack start inside rounds parents queue = some way) :
    g.ShortestBack start inside way := by
  induction rounds generalizing depth parents queue level with
  | zero => cases found
  | succ rounds ih =>
    cases queue with
    | nil => cases found
    | cons label queue =>
      simp only [searchBack] at found
      split at found
      · rename_i back
        cases found
        have depends := mem_dependents_iff.mp (List.contains_iff_mem.mp back)
        obtain ⟨length, head, chain, once⟩ :=
          searching.trail_way (searching.queued label List.mem_cons_self)
        have far : ∀ other ∈ label :: queue, depth label ≤ depth other :=
          List.forall_mem_cons.mpr ⟨Nat.le_refl _, (List.pairwise_cons.mp searching.sorted).1⟩
        exact {
          leads := List.isChain_cons.mpr ⟨fun next isNext => by
            obtain rfl : label = next := Option.some.inj (head.symm.trans isNext)
            exact depends, chain⟩
          once := List.perm_append_singleton start _ |>.nodup_iff.mp once
          least := fun other within chain => length ▸ searching.le_of_chain far within chain }
      · rename_i noWay
        have noWay : ¬ g.DependsOn start label := fun depends =>
          noWay (List.contains_iff_mem.mpr (mem_dependents_iff.mpr depends))
        obtain ⟨depth', next⟩ := searching.step noWay
        exact ih next found

/-- The labels that have no parent. -/
def unvisited (g : Graph) (parents : KeyMap String) : List String :=
  g.nodes.toList.filter fun label => !parents.contains label

/-- Labels that are come upon are taken off those that have no parent. -/
theorem length_unvisited_adopt (g : Graph) (inside : SortedSet String) (parents : KeyMap String)
    (label : String) (ends : g.EndsKnown) :
    (g.unvisited (adopt parents label (g.fresh inside parents label))).length +
      (g.fresh inside parents label).length ≤ (g.unvisited parents).length := by
  rw [← List.length_append]
  refine (List.Nodup.subperm ?_ ?_).length_le
  · refine List.nodup_append.mpr
      ⟨g.nodes.nodup_toList.filter _, (g.dependents label).nodup_toList.filter _, ?_⟩
    rintro d left _ right rfl
    simp [unvisited, KeyMap.contains, get?_adopt, right] at left
  · intro d member
    rcases List.mem_append.mp member with left | right
    · obtain ⟨known, absent⟩ := List.mem_filter.mp left
      refine List.mem_filter.mpr ⟨known, ?_⟩
      simp only [KeyMap.contains, get?_adopt] at absent ⊢
      split at absent
      · cases absent
      · exact absent
    · obtain ⟨depends, -, absent⟩ := mem_fresh.mp right
      exact List.mem_filter.mpr ⟨(depends.known ends).1, by simp [KeyMap.contains, absent]⟩

theorem searchBack_none (ends : g.EndsKnown)
    (searching : g.Searching start inside depth parents queue level)
    (enough : queue.length + (g.unvisited parents).length ≤ rounds)
    (none : g.searchBack start inside rounds parents queue = none) {way : List String}
    (within : ∀ label ∈ start :: way, label ∈ inside) :
    ¬ (start :: (way ++ [start])).IsChain g.DependsOn := by
  induction rounds generalizing depth parents queue level with
  | zero =>
    have done : queue = [] := List.length_eq_zero_iff.mp (by omega)
    subst done
    exact fun chain => Nat.not_succ_le_self _ (searching.le_of_chain (by simp) within chain)
  | succ rounds ih =>
    cases queue with
    | nil => exact fun chain => Nat.not_succ_le_self _ (searching.le_of_chain (by simp) within chain)
    | cons label queue =>
      simp only [searchBack] at none
      split at none
      · cases none
      rename_i noWay
      have noWay : ¬ g.DependsOn start label := fun depends =>
        noWay (List.contains_iff_mem.mpr (mem_dependents_iff.mpr depends))
      obtain ⟨depth', next⟩ := searching.step noWay
      have fewer := g.length_unvisited_adopt inside parents label ends
      refine ih next ?_ none
      rw [List.length_cons] at enough
      rw [List.length_append]
      omega

end Graph

end TaskPlan
