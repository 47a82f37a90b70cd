import TaskPlan.Proofs.Index.Asked

/-!
# One cache and an index that changes

In a session paths are looked up and fetched ahead through one cache, and from time to time
another index takes the place of the one behind it. A path is touched when it is looked up
or fetched ahead. The cache remembers what the index of the first touch answered, and has
asked for each path once, at that touch (`Session.Recorded`). So it answers what that index
answered, also when this was a failure or no result (`run_remembers`).
-/

namespace TaskPlan

namespace Cache

variable {index : Index} {cache : Cache} {paths : List String}

theorem get?_asks (other : String) :
    (paths.foldl (fun cache path => cache.ask index path) cache).entries.get? other =
      if other ∈ paths then some (index other) else cache.entries.get? other := by
  induction paths generalizing cache with
  | nil => simp
  | cons path rest ih =>
    rw [List.foldl_cons, ih, ask, KeyMap.get?_insert]
    by_cases same : path = other
    · simp [same]
    · simp [same, Ne.symm same]

theorem asked_asks :
    (paths.foldl (fun cache path => cache.ask index path) cache).asked = cache.asked ++ paths := by
  induction paths generalizing cache with
  | nil => simp
  | cons path rest ih => rw [List.foldl_cons, ih, ask, List.append_assoc, List.singleton_append]

theorem lookup_answer (index : Index) (path : String) (cache : Cache) :
    (cache.lookup index path).1 = (cache.entries.get? path).getD (index path) := by
  unfold lookup
  cases cache.entries.get? path <;> rfl

/-- The size of a cache that has asked for what it remembers. -/
theorem Tidy.size_eq (tidy : cache.Tidy) : cache.size = cache.asked.toFinset.card := by
  have same : cache.entries.keys.toFinset = cache.asked.toFinset := by
    ext path
    rw [List.mem_toFinset, List.mem_toFinset, KeyMap.mem_keys, tidy.asked_iff, Remembers]
  rw [← same, List.toFinset_card_of_nodup (KeyMap.keys_nodup cache.entries)]
  exact (List.length_map _).symm

end Cache

/-- The use of one cache with the index that is behind it now. -/
structure Session where
  index : Index
  cache : Cache

namespace Session

inductive Use where
  | lookup (path : String)
  | prefetch (paths : SortedSet String)
  /-- another index takes the place of the one behind the cache -/
  | change (index : Index)

def start (index : Index) : Session := ⟨index, .empty⟩

/-- What a look-up of a path answers. -/
def answer (session : Session) (path : String) : Answer :=
  (session.cache.lookup session.index path).1

def step (session : Session) : Use → Session
  | .lookup path => { session with cache := (session.cache.lookup session.index path).2 }
  | .prefetch paths => { session with cache := session.cache.prefetch session.index paths }
  | .change index => { session with index := index }

def run (session : Session) (uses : List Use) : Session := uses.foldl step session

/-! ### Touches -/

namespace Use

/-- The paths that a use touches. -/
def paths : Use → List String
  | .lookup path => [path]
  | .prefetch paths => paths.toList
  | .change _ => []

/-- The index that a use leaves behind the cache. -/
def indexAfter (index : Index) : Use → Index
  | .change other => other
  | _ => index

end Use

def lastIndex (index : Index) (uses : List Use) : Index := uses.foldl Use.indexAfter index

/-- The touches of paths in order, each with the index that was current. -/
def touches : (index : Index) → List Use → List (String × Index)
  | _, [] => []
  | index, use :: rest => use.paths.map (·, index) ++ touches (use.indexAfter index) rest

def touched (index : Index) (uses : List Use) : List String := (touches index uses).map Prod.fst

/-- The index that was current when a path was touched first. -/
def firstIndex? (index : Index) (uses : List Use) (path : String) : Option Index :=
  (touches index uses).lookup path

variable {index : Index} {session : Session} {use : Use} {uses done : List Use} {path : String}

theorem lastIndex_snoc : lastIndex index (done ++ [use]) = use.indexAfter (lastIndex index done) :=
  List.foldl_append

theorem touches_append (index : Index) (done uses : List Use) :
    touches index (done ++ uses) = touches index done ++ touches (lastIndex index done) uses := by
  induction done generalizing index with
  | nil => rfl
  | cons use rest ih => rw [List.cons_append, touches, touches, ih, List.append_assoc]; rfl

theorem lookup_map_same {paths : List String} (index : Index) (path : String) :
    (paths.map (·, index)).lookup path = if path ∈ paths then some index else none := by
  induction paths with
  | nil => rfl
  | cons first rest ih =>
    rw [List.map_cons, List.lookup_cons, ih]
    by_cases same : path = first
    · simp [same]
    · simp [same, beq_eq_false_iff_ne.mpr same]

theorem touched_snoc : touched index (done ++ [use]) = touched index done ++ use.paths := by
  rw [touched, touches_append, List.map_append]
  simp [touched, touches, Function.comp_def]

theorem firstIndex?_snoc : firstIndex? index (done ++ [use]) path =
    (firstIndex? index done path).or
      (if path ∈ use.paths then some (lastIndex index done) else none) := by
  rw [firstIndex?, touches_append, List.lookup_append, touches, touches, List.append_nil, lookup_map_same]
  rfl

theorem firstIndex?_isSome_iff : (firstIndex? index uses path).isSome = true ↔ path ∈ touched index uses := by
  rw [firstIndex?, touched, List.lookup_isSome_iff]
  simp

/-! ### What is recorded -/

/-- The cache holds for each touched path what the index of the first touch answers, and
has asked for the paths in the order of their first touches. -/
structure Recorded (index : Index) (uses : List Use) (session : Session) : Prop where
  current : session.index = lastIndex index uses
  remembers : ∀ path, session.cache.entries.get? path =
    (firstIndex? index uses path).map fun first => first path
  asks : session.cache.asked = (touched index uses).eraseDups

theorem start_recorded (index : Index) : Recorded index [] (start index) := ⟨rfl, fun _ => rfl, rfl⟩

/-- Both ways to touch paths ask for those that are not remembered. -/
theorem step_cache (session : Session) (use : Use) :
    (session.step use).cache =
      (use.paths.filter fun path => !session.cache.entries.contains path).foldl
        (fun cache path => cache.ask session.index path) session.cache := by
  cases use with
  | lookup path =>
    simp only [step, Cache.lookup, Use.paths, KeyMap.contains]
    cases found : session.cache.entries.get? path <;> simp [found]
  | prefetch paths => rfl
  | change other => rfl

theorem nodup_paths (use : Use) : use.paths.Nodup := by
  cases use with
  | lookup path => exact List.nodup_singleton path
  | prefetch paths => exact paths.nodup_toList
  | change other => exact List.nodup_nil

theorem eraseDups_of_nodup {paths : List String} (distinct : paths.Nodup) : paths.eraseDups = paths := by
  induction paths with
  | nil => rfl
  | cons path rest ih =>
    obtain ⟨fresh, distinct⟩ := List.nodup_cons.mp distinct
    have others : rest.filter (fun other => !other == path) = rest := by
      refine List.filter_eq_self.mpr fun other member => ?_
      have different : other ≠ path := fun same => fresh (same ▸ member)
      simpa using different
    rw [List.eraseDups_cons, others, ih distinct]

/-- What is remembered has been touched. -/
theorem Recorded.contains_iff (recorded : Recorded index done session) :
    session.cache.entries.contains path = true ↔ path ∈ touched index done := by
  rw [KeyMap.contains, recorded.remembers, Option.isSome_map, firstIndex?_isSome_iff]

theorem Recorded.step (recorded : Recorded index done session) (use : Use) :
    Recorded index (done ++ [use]) (session.step use) where
  current := by
    rw [lastIndex_snoc, ← recorded.current]
    cases use <;> rfl
  remembers path := by
    rw [step_cache, Cache.get?_asks, firstIndex?_snoc, ← recorded.current, recorded.remembers]
    simp only [List.mem_filter]
    cases first : firstIndex? index done path with
    | some first =>
      have already : session.cache.entries.contains path = true := by
        rw [recorded.contains_iff, ← firstIndex?_isSome_iff, first]
        rfl
      simp [already]
    | none =>
      have fresh : session.cache.entries.contains path = false := by
        rw [KeyMap.contains, recorded.remembers, first]
        rfl
      by_cases touches : path ∈ use.paths <;> simp [fresh, touches]
  asks := by
    have missing : use.paths.removeAll (touched index done) =
        use.paths.filter fun path => !session.cache.entries.contains path := by
      refine List.filter_congr fun path _ => congrArg _ (Bool.eq_iff_iff.mpr ?_)
      rw [recorded.contains_iff, List.elem_iff]
    rw [step_cache, Cache.asked_asks, touched_snoc, List.eraseDups_append, missing, ← recorded.asks,
      eraseDups_of_nodup ((nodup_paths use).filter _)]

theorem run_recorded (index : Index) (uses : List Use) : Recorded index uses ((start index).run uses) := by
  induction uses using List.reverseRecOn with
  | nil => exact start_recorded index
  | append_singleton done use ih =>
    rw [run, List.foldl_append]
    exact ih.step use

theorem step_tidy (tidy : session.cache.Tidy) (use : Use) : (session.step use).cache.Tidy := by
  cases use with
  | lookup path => exact tidy.lookup path
  | prefetch paths => exact tidy.prefetch paths
  | change other => exact tidy

theorem run_tidy (tidy : session.cache.Tidy) (uses : List Use) : (session.run uses).cache.Tidy := by
  induction uses generalizing session with
  | nil => exact tidy
  | cons use rest ih => exact ih (step_tidy tidy use)

/-- A look-up answers what the index of the first touch answered. -/
theorem Recorded.answer (recorded : Recorded index done session) (path : String) :
    ∃ first, firstIndex? index (done ++ [.lookup path]) path = some first ∧
      session.answer path = first path := by
  rw [Session.answer, Cache.lookup_answer, recorded.remembers, firstIndex?_snoc, recorded.current]
  cases firstIndex? index done path with
  | some first => exact ⟨first, rfl, rfl⟩
  | none => exact ⟨lastIndex index done, by simp [Use.paths], rfl⟩

theorem firstIndex?_append_of_some {first : Index} (found : firstIndex? index done path = some first)
    (uses : List Use) : firstIndex? index (done ++ uses) path = some first := by
  rw [firstIndex?, touches_append, List.lookup_append, ← firstIndex?, found]
  rfl

/-- Whatever is looked up, fetched ahead and changed: each look-up answers what the index
that was current at the first touch of its path answers, be it a result, none or a failure;
that is also what is remembered. No path was asked for twice, only touched ones in the order
of their first touches, and as many are remembered as were touched. -/
theorem run_remembers (index : Index) (uses : List Use) :
    (∀ before path after, uses = before ++ .lookup path :: after →
      ∃ first, firstIndex? index uses path = some first ∧
        ((start index).run before).answer path = first path) ∧
    (∀ path, ((start index).run uses).cache.entries.get? path =
      (firstIndex? index uses path).map fun first => first path) ∧
    ((start index).run uses).cache.asked = (touched index uses).eraseDups ∧
    ((start index).run uses).cache.asked.Nodup ∧
    ((start index).run uses).cache.size = (touched index uses).toFinset.card := by
  have recorded := run_recorded index uses
  have tidy : ((start index).run uses).cache.Tidy := run_tidy Cache.empty_tidy uses
  refine ⟨?_, recorded.remembers, recorded.asks, tidy.once, ?_⟩
  · rintro before path after rfl
    obtain ⟨first, found, answered⟩ := (run_recorded index before).answer path
    refine ⟨first, ?_, answered⟩
    have found := firstIndex?_append_of_some found after
    rwa [List.append_assoc] at found
  · rw [tidy.size_eq, recorded.asks]
    refine congrArg Finset.card (Finset.ext fun path => ?_)
    rw [List.mem_toFinset, List.mem_toFinset, List.mem_eraseDups]

/-- No path can be looked up. -/
def outage : Index := fun _ => .error "index service unavailable"

/-- One path is known. -/
def restored : Index := StoredIndex.answer (.insert .empty "uses.T" "U" ⟨.completed, default⟩)

/-- A failure outlasts the outage, also for a path that is fetched ahead later. -/
theorem run_remembers_outage :
    ∃ before after : Session,
      before = (start outage).run [.lookup "images.latest", .change restored,
        .prefetch (.ofList ["uses.T", "images.latest", "uses.S"])] ∧
      after = before.run [.lookup "images.latest", .lookup "uses.T"] ∧
      before.answer "images.latest" = .error "index service unavailable" ∧
      after.answer "uses.T" = .ok (some ⟨"U", .completed, default⟩) ∧
      after.cache.asked = ["images.latest", "uses.S", "uses.T"] ∧ after.cache.size = 3 := by
  let uses : List Use := [.lookup "images.latest", .change restored,
    .prefetch (.ofList ["uses.T", "images.latest", "uses.S"]), .lookup "images.latest", .lookup "uses.T"]
  obtain ⟨answers, remembered, asked, -, size⟩ := run_remembers outage uses
  obtain ⟨first, found, answered⟩ := answers (uses.take 3) "images.latest" [.lookup "uses.T"] rfl
  refine ⟨_, _, rfl, rfl, ?_, ?_, asked.trans (by decide +kernel), size.trans (by decide +kernel)⟩
  · have same : firstIndex? outage uses "images.latest" = some outage := rfl
    rw [Option.some.inj (found.symm.trans same)] at answered
    exact answered
  · have same : firstIndex? outage uses "uses.T" = some restored := rfl
    have known := remembered "uses.T"
    rw [same] at known
    change (((start outage).run uses).cache.lookup restored "uses.T").1 = _
    rw [Cache.lookup_answer, known]
    decide +kernel

end Session

end TaskPlan
