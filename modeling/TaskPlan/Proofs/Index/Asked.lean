import TaskPlan.Proofs.Index.Lookup
import TaskPlan.Proofs.Order.Finite

/-!
# What an index is asked

A cache that starts empty has asked for the paths that it remembers, and for each once
(`Cache.Tidy`). So what was asked can be read off what is remembered, and a computation
that looks up remembered paths only asks for nothing (`Lookup.Keeps.ask_remembered`).
-/

namespace TaskPlan

namespace Cache

variable {index : Index} {cache : Cache} {path other : String}

def Remembers (cache : Cache) (path : String) : Prop := cache.entries.contains path = true

/-- The paths asked for are those that are remembered, and none was asked for twice. -/
structure Tidy (cache : Cache) : Prop where
  once : cache.asked.Nodup
  asked_iff : ∀ path, path ∈ cache.asked ↔ cache.Remembers path

theorem not_remembers_empty (path : String) : ¬ empty.Remembers path := by
  intro found
  cases found

theorem remembers_ask : (cache.ask index path).Remembers other ↔ other = path ∨ cache.Remembers other := by
  rw [Remembers, Remembers, ask, KeyMap.contains, KeyMap.contains, KeyMap.get?_insert]
  by_cases same : path = other
  · simp [same]
  · simp [same, Ne.symm same]

theorem remembers_asks (paths : List String) :
    (paths.foldl (fun cache path => cache.ask index path) cache).Remembers other ↔
      other ∈ paths ∨ cache.Remembers other := by
  induction paths generalizing cache with
  | nil => simp
  | cons path rest ih => rw [List.foldl_cons, ih, remembers_ask, List.mem_cons, or_assoc, or_left_comm]

theorem remembers_prefetch {paths : SortedSet String} :
    (cache.prefetch index paths).Remembers path ↔ path ∈ paths ∨ cache.Remembers path := by
  rw [prefetch, remembers_asks]
  by_cases already : cache.Remembers path
  · simp [already]
  · have fresh : cache.entries.contains path = false := Bool.not_eq_true _ ▸ already
    simp [already, fresh, SortedSet.mem_toList]

theorem empty_tidy : empty.Tidy where
  once := List.nodup_nil
  asked_iff path := by
    simp only [empty, List.not_mem_nil, false_iff]
    exact not_remembers_empty path

theorem Tidy.ask (tidy : cache.Tidy) (fresh : ¬ cache.Remembers path) : (cache.ask index path).Tidy where
  once := by
    rw [← tidy.asked_iff] at fresh
    exact List.nodup_append.mpr ⟨tidy.once, List.nodup_singleton path, by
      rintro other member _ same rfl
      exact fresh (List.mem_singleton.mp same ▸ member)⟩
  asked_iff other := by
    rw [remembers_ask, ← tidy.asked_iff, Cache.ask, List.mem_append, List.mem_singleton, or_comm]

theorem Tidy.lookup (tidy : cache.Tidy) (path : String) : (cache.lookup index path).2.Tidy := by
  unfold Cache.lookup
  split
  · exact tidy
  · rename_i absent
    refine tidy.ask ?_
    rw [Remembers, KeyMap.contains, absent]
    exact Bool.false_ne_true

theorem Tidy.prefetch (tidy : cache.Tidy) (paths : SortedSet String) :
    (cache.prefetch index paths).Tidy := by
  have fresh : ∀ path ∈ paths.toList.filter fun path => !cache.entries.contains path,
      ¬ cache.Remembers path := by
    intro path member
    simpa [Remembers] using (List.mem_filter.mp member).2
  have distinct := paths.nodup_toList.filter fun path => !cache.entries.contains path
  unfold Cache.prefetch
  generalize paths.toList.filter _ = missing at fresh distinct
  induction missing generalizing cache with
  | nil => exact tidy
  | cons path rest ih =>
    obtain ⟨only, distinct⟩ := List.nodup_cons.mp distinct
    refine ih (tidy.ask (fresh path List.mem_cons_self)) (fun other member => ?_) distinct
    rw [remembers_ask, not_or]
    refine ⟨?_, fresh other (List.mem_cons_of_mem _ member)⟩
    rintro rfl
    exact only member

end Cache

namespace Lookup

variable {ε δ α β : Type} {index : Index} {p : Cache → Prop}

/-! ### What a computation keeps -/

/-- What holds of a cache before the computation holds after it, also if it fails. -/
def Keeps (index : Index) (p : Cache → Prop) (x : Lookup ε α) : Prop :=
  ∀ cache, p cache → p (x.run index cache).2

namespace Keeps

theorem ofResult (outcome : Except ε α) : Keeps index p (Lookup.ofResult outcome) := fun _ kept => kept

theorem pure (a : α) : Keeps index p (Pure.pure a : Lookup ε α) := fun _ kept => kept

theorem throw (fault : ε) : Keeps index p (MonadExcept.throw fault : Lookup ε α) := fun _ kept => kept

theorem mapError (f : ε → δ) {x : Lookup ε α} (keeps : Keeps index p x) :
    Keeps index p (Lookup.mapError f x) := keeps

theorem bind {x : Lookup ε α} {f : α → Lookup ε β} (first : Keeps index p x)
    (next : ∀ a, Keeps index p (f a)) : Keeps index p (x >>= f) := by
  intro cache kept
  have after := first cache kept
  rw [run_bind]
  cases ran : x.run index cache with
  | mk outcome cache' =>
    rw [ran] at after
    cases outcome with
    | ok a => exact next a cache' after
    | error fault => exact after

theorem foldlM {step : β → α → Lookup ε β} {items : List α}
    (each : ∀ b, ∀ item ∈ items, Keeps index p (step b item)) (b : β) :
    Keeps index p (items.foldlM step b) := by
  induction items generalizing b with
  | nil => exact Keeps.pure b
  | cons item rest ih =>
    rw [List.foldlM_cons]
    refine (each b item List.mem_cons_self).bind fun b' => ih ?_ b'
    exact fun b item member => each b item (List.mem_cons_of_mem _ member)

theorem ask_tidy (path : String) : Keeps index Cache.Tidy (Lookup.ask path : Lookup ε Answer) :=
  fun _ tidy => tidy.lookup path

theorem prefetch_tidy (paths : SortedSet String) :
    Keeps index Cache.Tidy (Lookup.prefetch paths : Lookup ε Unit) :=
  fun _ tidy => tidy.prefetch paths

/-- What is remembered is not asked again. -/
theorem ask_remembered {cache : Cache} {path : String} (known : cache.Remembers path) :
    Keeps index (· = cache) (Lookup.ask path : Lookup ε Answer) := by
  rintro other same
  obtain ⟨answer, found⟩ := KeyMap.contains_iff.mp known
  change (other.lookup index path).2 = cache
  rw [same, Cache.lookup, found]

end Keeps

/-! ### How a computation may fail -/

/-- The computation does not fail in this way, whatever is remembered. -/
def Avoids (index : Index) (bad : ε → Prop) (x : Lookup ε α) : Prop :=
  ∀ cache fault, (x.run index cache).1 = .error fault → ¬ bad fault

namespace Avoids

variable {bad : ε → Prop}

theorem ofResult {outcome : Except ε α} (avoids : ∀ fault, outcome = .error fault → ¬ bad fault) :
    Avoids index bad (Lookup.ofResult outcome) := fun _ => avoids

theorem pure (a : α) : Avoids index bad (Pure.pure a : Lookup ε α) := by
  intro _ fault failed
  cases failed

theorem mapError {f : δ → ε} (avoids : ∀ fault, ¬ bad (f fault)) (x : Lookup δ α) :
    Avoids index bad (Lookup.mapError f x) := by
  intro cache fault failed
  change (x.run index cache).1.mapError f = .error fault at failed
  cases outcome : (x.run index cache).1 with
  | ok a =>
    rw [outcome] at failed
    cases failed
  | error inner =>
    rw [outcome] at failed
    cases failed
    exact avoids inner

theorem bind {x : Lookup ε α} {f : α → Lookup ε β} (first : Avoids index bad x)
    (next : ∀ a, Gives index x a → Avoids index bad (f a)) : Avoids index bad (x >>= f) := by
  intro cache fault failed
  rw [run_bind] at failed
  split at failed
  · rename_i a after ran
    exact next a ⟨cache, by rw [ran]⟩ after fault failed
  · rename_i inner after ran
    cases failed
    exact first cache fault (by rw [ran])

theorem foldlM {step : β → α → Lookup ε β} {items : List α}
    (each : ∀ b item, Avoids index bad (step b item)) (b : β) :
    Avoids index bad (items.foldlM step b) := by
  induction items generalizing b with
  | nil => exact Avoids.pure b
  | cons item rest ih =>
    rw [List.foldlM_cons]
    exact (each b item).bind fun b' _ => ih b'

end Avoids

end Lookup

end TaskPlan
