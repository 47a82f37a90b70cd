import TaskPlan.Index.Basic
import TaskPlan.Order.SortedSet

/-!
# Remembered look-ups

A cache remembers the answers of an index, failures among them, so that no path is
asked twice. `Cache.asked` records what was asked, in order. `Lookup` is the kind of
computation that consults an index through a cache.
-/

namespace TaskPlan

structure Cache where
  entries : KeyMap Answer
  /-- the paths asked of an index, in order -/
  asked : List String

namespace Cache

def empty : Cache := ⟨.empty, []⟩

instance : Inhabited Cache := ⟨empty⟩

def size (cache : Cache) : Nat := cache.entries.size

def ask (index : Index) (path : String) (cache : Cache) : Cache :=
  ⟨cache.entries.insert path (index path), cache.asked ++ [path]⟩

def lookup (index : Index) (path : String) (cache : Cache) : Answer × Cache :=
  match cache.entries.get? path with
  | some answer => (answer, cache)
  | none => (index path, cache.ask index path)

/-- Asks for those of the paths that are not remembered, in ascending order. -/
def prefetch (index : Index) (paths : SortedSet String) (cache : Cache) : Cache :=
  (paths.toList.filter fun path => !cache.entries.contains path).foldl
    (fun cache path => cache.ask index path) cache

end Cache

/-- A computation that asks an index through a cache and may fail; what it asked
stays remembered when it fails. -/
abbrev Lookup (ε : Type) := ReaderT Index (ExceptT ε (StateM Cache))

namespace Lookup

def ask (path : String) : Lookup ε Answer := fun index => ExceptT.mk fun cache =>
  let (answer, cache) := cache.lookup index path
  (.ok answer, cache)

def prefetch (paths : SortedSet String) : Lookup ε Unit := fun index => ExceptT.mk fun cache =>
  (.ok (), cache.prefetch index paths)

def ofResult (outcome : Except ε α) : Lookup ε α := fun _ => ExceptT.mk fun cache => (outcome, cache)

def mapError (f : ε → δ) (computation : Lookup ε α) : Lookup δ α := fun index =>
  ExceptT.mk fun cache =>
    let (outcome, cache) := (ExceptT.run (computation index)) cache
    (outcome.mapError f, cache)

def run (computation : Lookup ε α) (index : Index) (cache : Cache) : Except ε α × Cache :=
  (ExceptT.run (computation index)) cache

end Lookup

end TaskPlan
