import TaskPlan.Index.Cache
import TaskPlan.Proofs.Outcome

/-!
# Look-ups and the index behind them

A cache that remembers only answers of an index is faithful to it. A computation
yields an outcome from an index if it has that outcome with every faithful cache,
whatever is in the cache, and leaves a faithful one (`Lookup.Yields`): it then
might as well ask the index itself. `Yields.bind` and `Yields.foldlM` follow a
computation step by step.
-/

namespace TaskPlan

/-- Every remembered answer is the one of the index. -/
def Cache.Faithful (cache : Cache) (index : Index) : Prop :=
  ∀ path answer, cache.entries.get? path = some answer → answer = index path

namespace Cache

variable {index : Index} {cache : Cache}

theorem empty_faithful (index : Index) : empty.Faithful index := by
  intro path answer found
  cases found

theorem ask_faithful (faithful : cache.Faithful index) (path : String) :
    (cache.ask index path).Faithful index := by
  intro other answer found
  rw [ask, KeyMap.get?_insert] at found
  split at found
  · rename_i same
    rw [← same]
    exact (Option.some.inj found).symm
  · exact faithful other answer found

theorem lookup_faithful (faithful : cache.Faithful index) (path : String) :
    (cache.lookup index path).1 = index path ∧ (cache.lookup index path).2.Faithful index := by
  unfold lookup
  split
  · rename_i answer found
    exact ⟨faithful path answer found, faithful⟩
  · exact ⟨rfl, ask_faithful faithful path⟩

theorem prefetch_faithful (faithful : cache.Faithful index) (paths : SortedSet String) :
    (cache.prefetch index paths).Faithful index := by
  unfold prefetch
  generalize paths.toList.filter _ = missing
  induction missing generalizing cache with
  | nil => exact faithful
  | cons path rest ih => exact ih (ask_faithful faithful path)

end Cache

namespace Lookup

variable {ε δ α β : Type} {index : Index}

theorem run_bind (x : Lookup ε α) (f : α → Lookup ε β) (index : Index) (cache : Cache) :
    (x >>= f).run index cache =
      match x.run index cache with
      | (.ok a, cache) => (f a).run index cache
      | (.error fault, cache) => (.error fault, cache) := by
  simp only [run, ExceptT.run, bind, ReaderT.bind, ExceptT.bind, ExceptT.mk, StateT.bind]
  cases x index cache with
  | mk outcome after => cases outcome <;> rfl

theorem run_bind_ok {x : Lookup ε α} {f : α → Lookup ε β} {cache after : Cache} {b : β}
    (h : (x >>= f).run index cache = (.ok b, after)) :
    ∃ a between, x.run index cache = (.ok a, between) ∧ (f a).run index between = (.ok b, after) := by
  rw [run_bind] at h
  split at h
  · rename_i a between ran
    exact ⟨a, between, ran, h⟩
  · cases h

theorem run_ofResult_ok {outcome : Except ε α} {cache after : Cache} {a : α}
    (h : (ofResult outcome).run index cache = (.ok a, after)) : outcome = .ok a ∧ after = cache :=
  ⟨congrArg Prod.fst h, (congrArg Prod.snd h).symm⟩

/-- What every round of a loop keeps holds at the end. -/
theorem foldlM_run_keeps {step : β → α → Lookup ε β} {items : List α}
    (keeps : List α → β → Cache → Prop)
    (preserve : ∀ done item rest b b' cache after, items = done ++ item :: rest →
      keeps done b cache → (step b item).run index cache = (.ok b', after) →
      keeps (done ++ [item]) b' after)
    {first last : β} {cache after : Cache} (start : keeps [] first cache)
    (h : (items.foldlM step first).run index cache = (.ok last, after)) : keeps items last after := by
  have through : ∀ rest done b cache, items = done ++ rest → keeps done b cache →
      (rest.foldlM step b).run index cache = (.ok last, after) → keeps items last after := by
    intro rest
    induction rest with
    | nil =>
      intro done b cache split kept h
      cases h
      rw [split, List.append_nil]
      exact kept
    | cons item rest ih =>
      intro done b cache split kept h
      rw [List.foldlM_cons] at h
      obtain ⟨b', between, stepped, h⟩ := run_bind_ok h
      have kept := preserve done item rest b b' cache between split kept stepped
      exact ih (done ++ [item]) b' between (by simp [split]) kept h
  exact through items [] first cache rfl start h

/-- The values that a computation gives from an index, with some cache. -/
def Gives (index : Index) (x : Lookup ε α) (a : α) : Prop :=
  ∃ cache, (x.run index cache).1 = .ok a

theorem gives_of_run {x : Lookup ε α} {a : α} {cache after : Cache}
    (ran : x.run index cache = (.ok a, after)) : Gives index x a := ⟨cache, by rw [ran]⟩

theorem Gives.run {x : Lookup ε α} {a : α} (gives : Gives index x a) :
    ∃ cache after, x.run index cache = (.ok a, after) := by
  obtain ⟨cache, h⟩ := gives
  exact ⟨cache, _, Prod.ext h rfl⟩

theorem gives_pure {a b : α} (h : Gives index (pure a : Lookup ε α) b) : b = a := by
  obtain ⟨_, h⟩ := h
  exact (Except.ok.inj h).symm

theorem gives_ofResult {outcome : Except ε α} {a : α} :
    Gives index (ofResult outcome) a ↔ outcome = .ok a :=
  ⟨fun ⟨_, h⟩ => h, fun h => ⟨.empty, h⟩⟩

theorem gives_bind {x : Lookup ε α} {f : α → Lookup ε β} {b : β} (h : Gives index (x >>= f) b) :
    ∃ a, Gives index x a ∧ Gives index (f a) b := by
  obtain ⟨cache, after, ran⟩ := h.run
  obtain ⟨a, between, first, next⟩ := run_bind_ok ran
  exact ⟨a, gives_of_run first, gives_of_run next⟩

theorem foldlM_gives_keeps {step : β → α → Lookup ε β} {items : List α}
    (keeps : List α → β → Prop)
    (preserve : ∀ done item rest b b', items = done ++ item :: rest → keeps done b →
      Gives index (step b item) b' → keeps (done ++ [item]) b')
    {first last : β} (start : keeps [] first) (h : Gives index (items.foldlM step first) last) :
    keeps items last := by
  obtain ⟨cache, after, ran⟩ := h.run
  refine foldlM_run_keeps (fun done b _ => keeps done b) ?_ start ran
  intro done item rest b b' cache after split kept stepped
  exact preserve done item rest b b' split kept (gives_of_run stepped)

/-! ### Outcomes that the index alone decides -/

/-- With every faithful cache the computation has this outcome and keeps the cache
faithful. -/
def Yields (index : Index) (x : Lookup ε α) (outcome : Except ε α) : Prop :=
  ∀ cache, cache.Faithful index →
    (x.run index cache).1 = outcome ∧ (x.run index cache).2.Faithful index

namespace Yields

theorem pure (a : α) : Yields index (Pure.pure a : Lookup ε α) (.ok a) :=
  fun _ faithful => ⟨rfl, faithful⟩

theorem throw (fault : ε) : Yields index (MonadExcept.throw fault : Lookup ε α) (.error fault) :=
  fun _ faithful => ⟨rfl, faithful⟩

theorem ofResult (outcome : Except ε α) : Yields index (Lookup.ofResult outcome) outcome :=
  fun _ faithful => ⟨rfl, faithful⟩

theorem ask (path : String) : Yields index (Lookup.ask path : Lookup ε Answer) (.ok (index path)) := by
  intro cache faithful
  have looked := Cache.lookup_faithful faithful path
  exact ⟨congrArg Except.ok looked.1, looked.2⟩

theorem prefetch (paths : SortedSet String) :
    Yields index (Lookup.prefetch paths : Lookup ε Unit) (.ok ()) :=
  fun _ faithful => ⟨rfl, Cache.prefetch_faithful faithful paths⟩

theorem mapError {x : Lookup ε α} {outcome : Except ε α} (f : ε → δ)
    (yields : Yields index x outcome) : Yields index (Lookup.mapError f x) (outcome.mapError f) := by
  intro cache faithful
  obtain ⟨same, kept⟩ := yields cache faithful
  exact ⟨congrArg (Except.mapError f) same, kept⟩

theorem bind {x : Lookup ε α} {outcome : Except ε α} {f : α → Lookup ε β} {g : α → Except ε β}
    (first : Yields index x outcome) (next : ∀ a, outcome = .ok a → Yields index (f a) (g a)) :
    Yields index (x >>= f) (outcome >>= g) := by
  intro cache faithful
  obtain ⟨same, kept⟩ := first cache faithful
  rw [run_bind]
  cases ran : x.run index cache with
  | mk result after =>
    rw [ran] at same kept
    subst same
    cases result with
    | ok a => exact next a rfl after kept
    | error fault => exact ⟨rfl, kept⟩

theorem bind_ok {x : Lookup ε α} {a : α} {f : α → Lookup ε β} {outcome : Except ε β}
    (first : Yields index x (.ok a)) (next : Yields index (f a) outcome) :
    Yields index (x >>= f) outcome :=
  bind (g := fun _ => outcome) first fun b same => by
    cases same
    exact next

theorem bind_error {x : Lookup ε α} {fault : ε} (f : α → Lookup ε β)
    (first : Yields index x (.error fault)) : Yields index (x >>= f) (.error fault) :=
  bind (g := fun _ => .error fault) first fun b same => by cases same

theorem foldlM {step : β → α → Lookup ε β} {plain : β → α → Except ε β}
    (each : ∀ b a, Yields index (step b a) (plain b a)) (items : List α) (b : β) :
    Yields index (items.foldlM step b) (items.foldlM plain b) := by
  induction items generalizing b with
  | nil => exact Yields.pure b
  | cons item rest ih =>
    rw [List.foldlM_cons, List.foldlM_cons]
    exact (each b item).bind fun b' _ => ih b'

end Yields

end Lookup

end TaskPlan
