import TaskPlan.Proofs.Verify.Repeats

/-!
# Symbols

The check for symbols goes by one text for each, in which the parts of the symbol stand
between slashes (`uniqueTreeherderSymbols_goes_by_text`). Tasks whose symbols have the same
parts are refused. The text does not tell where a part ends that has slashes itself, so tasks
can be refused whose symbols differ (`uniqueTreeherderSymbols_merges_platforms`). None are if
the parts of all symbols have as many slashes and no comma stands in the name of a collection.
-/

namespace TaskPlan

namespace KeyMap

/-- What is read off the values of a map, if it is different for different keys. -/
theorem nodup_filterMap_values {α β : Type} (m : KeyMap α) (read : α → Option β) :
    (m.values.filterMap read).Nodup ↔ ∀ key other v w x y, m.get? key = some v →
      m.get? other = some w → read v = some x → read w = some y → key ≠ other → x ≠ y := by
  rw [values, List.filterMap_map, List.Nodup, List.pairwise_filterMap]
  constructor
  · intro apart key other v w x y found foundToo here there differ same
    have symmetric : Std.Symm fun a b : String × α => ∀ x, (read ∘ Prod.snd) a = some x →
        ∀ y, (read ∘ Prod.snd) b = some y → x ≠ y :=
      ⟨fun a b apart x here y there => (apart y there x here).symm⟩
    exact apart.forall (mem_toList_iff.mpr found) (mem_toList_iff.mpr foundToo)
      (fun equal => differ (Prod.mk.inj equal).1) x here y there same
  · intro apart
    refine m.ascending.imp_of_mem ?_
    rintro ⟨key, v⟩ ⟨other, w⟩ member memberToo less x here y there
    refine apart key other v w x y (mem_toList_iff.mp member) (mem_toList_iff.mp memberToo) here there ?_
    rintro rfl
    simp [Std.ReflCmp.compare_self] at less

end KeyMap

namespace Check

namespace Symbol

variable {s t : Symbol}

/-! ### Parts and text -/

theorem toList_text (s : Symbol) : s.text.toList = s.names.toList ++ '/' ::
    (s.platform.toList ++ '/' :: (s.group.toList ++ '/' :: s.symbol.toList)) := by
  simp [text, toString]

/-- A text is cut at a separator in one way, if it is known how many come before. -/
theorem append_cons_inj {c : Char} {x y r s : List Char} (count : x.count c = y.count c)
    (same : x ++ c :: r = y ++ c :: s) : x = y ∧ r = s := by
  have none {x between r s : List Char} (count : x.count c = (x ++ between).count c)
      (rest : c :: r = between ++ c :: s) : between = [] := by
    cases between with
    | nil => rfl
    | cons first between =>
      cases (List.cons.inj rest).1
      rw [List.count_append, List.count_cons_self] at count
      omega
  rcases List.append_eq_append_iff.mp same with ⟨between, rfl, rest⟩ | ⟨between, rfl, rest⟩
  · cases none count rest
    exact ⟨(List.append_nil _).symm, (List.cons.inj rest).2⟩
  · cases none count.symm rest
    exact ⟨List.append_nil _, (List.cons.inj rest).2.symm⟩

/-- The names of the collections can be told from the text that lists them. -/
structure Listed (s : Symbol) : Prop where
  apart : ∀ name ∈ s.collection, ',' ∉ name.toList
  named : s.collection.toList ≠ [""]

theorem Listed.splitOn_names (listed : s.Listed) (some : s.collection.toList ≠ []) :
    s.names.toList.splitOn ',' = s.collection.toList.map String.toList := by
  rw [names, String.toList_intercalate]
  refine List.splitOn_intercalate ',' ?_ (by simpa using some)
  rintro _ member
  obtain ⟨name, inside, rfl⟩ := List.mem_map.mp member
  exact listed.apart name inside

theorem Listed.names_eq_empty_iff (listed : s.Listed) : s.names = "" ↔ s.collection.toList = [] := by
  constructor
  · intro empty
    by_contra some
    have one := listed.splitOn_names some
    rw [empty] at one
    refine listed.named (List.map_injective_iff.mpr (fun _ _ => String.toList_inj.mp) ?_)
    exact one.symm
  · intro none
    rw [names, none]
    rfl

theorem Listed.collection_eq (listed : s.Listed) (listed' : t.Listed) (same : s.names = t.names) :
    s.collection = t.collection := by
  have members : s.collection.toList = t.collection.toList := by
    by_cases none : s.collection.toList = []
    · rw [none, listed'.names_eq_empty_iff.mp (same ▸ listed.names_eq_empty_iff.mpr none)]
    · have some : t.collection.toList ≠ [] := fun none' =>
        none (listed.names_eq_empty_iff.mp (same.trans (listed'.names_eq_empty_iff.mpr none')))
      refine List.map_injective_iff.mpr (fun _ _ => String.toList_inj.mp) ?_
      rw [← listed.splitOn_names none, ← listed'.splitOn_names some, same]
  refine SortedSet.ext_mem fun name => ?_
  rw [← SortedSet.mem_toList, members, SortedSet.mem_toList]

instance (s : Symbol) : Decidable s.Listed :=
  decidable_of_iff ((∀ name ∈ s.collection.toList, ',' ∉ name.toList) ∧ s.collection.toList ≠ [""])
    ⟨fun h => ⟨h.1, h.2⟩, fun h => ⟨h.apart, h.named⟩⟩

def slashes (text : String) : Nat := text.toList.count '/'

/-- Symbols whose parts end at the same slashes of their texts. -/
structure Aligned (s t : Symbol) : Prop where
  names : slashes s.names = slashes t.names
  platform : slashes s.platform = slashes t.platform
  group : slashes s.group = slashes t.group

instance (s t : Symbol) : Decidable (s.Aligned t) :=
  decidable_of_iff (slashes s.names = slashes t.names ∧ slashes s.platform = slashes t.platform ∧
    slashes s.group = slashes t.group) ⟨fun h => ⟨h.1, h.2.1, h.2.2⟩, fun h => ⟨h.1, h.2, h.3⟩⟩

theorem text_inj (listed : s.Listed) (listed' : t.Listed) (aligned : s.Aligned t)
    (same : s.text = t.text) : s = t := by
  rw [← String.toList_inj, toList_text, toList_text] at same
  obtain ⟨names, same⟩ := append_cons_inj aligned.names same
  obtain ⟨platform, same⟩ := append_cons_inj aligned.platform same
  obtain ⟨group, symbol⟩ := append_cons_inj aligned.group same
  have collection := listed.collection_eq listed' (String.toList_inj.mp names)
  rw [String.toList_inj] at platform group symbol
  cases s
  cases t
  simp_all

end Symbol

/-! ### The check -/

/-- The task with this label is shown under a symbol. -/
def Shown (graph : TaskGraph) (label : String) (s : Symbol) : Prop :=
  ∃ task, graph.get? label = some task ∧ symbolOf? task = some s

theorem exists_shown_iff {graph : TaskGraph} {s : Symbol} :
    (∃ label, Shown graph label s) ↔ s ∈ graph.tasks.values.filterMap symbolOf? := by
  simp only [Shown, List.mem_filterMap, KeyMap.mem_values]
  constructor
  · rintro ⟨label, task, found, shows⟩
    exact ⟨task, ⟨label, found⟩, shows⟩
  · rintro ⟨task, ⟨label, found⟩, shows⟩
    exact ⟨label, task, found, shows⟩

/-- What is read off the symbols, if it is different for different tasks. -/
theorem nodup_shown_iff {β : Type} {graph : TaskGraph} (read : Symbol → β) :
    (graph.tasks.values.filterMap fun task => (symbolOf? task).map read).Nodup ↔
      ∀ label other s t, Shown graph label s → Shown graph other t → label ≠ other →
        read s ≠ read t := by
  rw [KeyMap.nodup_filterMap_values]
  constructor
  · rintro apart label other s t ⟨task, found, shows⟩ ⟨task', found', shows'⟩
    exact apart label other task task' _ _ found found' (by rw [shows]; rfl) (by rw [shows']; rfl)
  · intro apart label other task task' x y found found' here there
    obtain ⟨s, shows, rfl⟩ := Option.map_eq_some_iff.mp here
    obtain ⟨t, shows', rfl⟩ := Option.map_eq_some_iff.mp there
    exact apart label other s t ⟨task, found, shows⟩ ⟨task', found', shows'⟩

theorem uniqueTreeherderSymbols_run_ok_iff {config : GraphConfig} {graph : TaskGraph} :
    uniqueTreeherderSymbols.run config graph = .ok () ↔
      ∀ label other s t, Shown graph label s → Shown graph other t → label ≠ other →
        s.text ≠ t.text := by
  rw [uniqueTreeherderSymbols, unique_run_ok_iff, ← nodup_shown_iff]
  exact iff_of_eq (congrArg List.Nodup (List.filterMap_eq_flatMap_toList _ _).symm)

/-- The check passes exactly if no two tasks have symbols with one text, so that tasks whose
symbols agree in all parts are refused. If it fails, it reports the first text that comes again
in the order of the labels. If no comma stands in the name of a collection and corresponding
parts of all symbols have as many slashes, the check passes exactly if the symbols of different
tasks differ. -/
theorem uniqueTreeherderSymbols_goes_by_text (config : GraphConfig) (graph : TaskGraph) :
    (uniqueTreeherderSymbols.run config graph = .ok () ↔
      ∀ label other s t, Shown graph label s → Shown graph other t → label ≠ other →
        s.text ≠ t.text) ∧
    (∀ error, uniqueTreeherderSymbols.run config graph = .error error ↔
      ∃ text label other, FirstRepeat (entries (symbols config) graph) text label other ∧
        error = .check "unique-treeherder-symbols" (.sharedSymbol label (.str other) text)) ∧
    (∀ label other s, Shown graph label s → Shown graph other s → label ≠ other →
      uniqueTreeherderSymbols.run config graph ≠ .ok ()) ∧
    ((∀ label s, Shown graph label s → s.Listed ∧ ∀ other t, Shown graph other t → s.Aligned t) →
      (uniqueTreeherderSymbols.run config graph = .ok () ↔
        ∀ label other s t, Shown graph label s → Shown graph other t → label ≠ other → s ≠ t)) := by
  refine ⟨uniqueTreeherderSymbols_run_ok_iff, unique_run_error_iff _ _ _ config graph, ?_,
    fun told => ?_⟩
  · intro label other s here there differ passed
    exact uniqueTreeherderSymbols_run_ok_iff.mp passed label other s s here there differ rfl
  · rw [uniqueTreeherderSymbols_run_ok_iff]
    constructor
    · rintro apart label other s _ here there differ rfl
      exact apart label other s s here there differ rfl
    · intro apart label other s t here there differ same
      obtain ⟨listed, aligned⟩ := told label s here
      exact apart label other s t here there differ
        (Symbol.text_inj listed (told other t there).1 (aligned other t there) same)

def mochitest (label platform group symbol : String) : Task where
  label := label
  kind := "test"
  attributes := .empty
  dependencies := .empty
  optimization := none
  worker := .alwaysOptimized
  definition := .obj [("extra", .obj [("treeherder", .obj [
    ("machine", .obj [("platform", .str platform)]), ("groupSymbol", .str group),
    ("symbol", .str symbol)])])]

/-- Tests under one symbol on two platforms. -/
def platforms : TaskGraph where
  tasks := .ofList [("debug", mochitest "debug" "linux64/debug" "M" "1"),
    ("opt", mochitest "opt" "linux64/opt" "M" "1")]
  graph := ⟨.ofList ["debug", "opt"], .empty⟩
  external := .empty

theorem uniqueTreeherderSymbols_goes_by_text_platforms :
    (∀ label s, Shown platforms label s →
      s.Listed ∧ ∀ other t, Shown platforms other t → s.Aligned t) ∧
    uniqueTreeherderSymbols.run (.ofDomain "gecko" "https://ci.example.net") platforms = .ok () := by
  have told : ∀ label s, Shown platforms label s →
      s.Listed ∧ ∀ other t, Shown platforms other t → s.Aligned t := by
    have all : ∀ s ∈ platforms.tasks.values.filterMap symbolOf?,
        s.Listed ∧ ∀ t ∈ platforms.tasks.values.filterMap symbolOf?, s.Aligned t := by decide +kernel
    intro label s here
    obtain ⟨listed, aligned⟩ := all s (exists_shown_iff.mp ⟨label, here⟩)
    exact ⟨listed, fun other t there => aligned t (exists_shown_iff.mp ⟨other, there⟩)⟩
  have differ : (platforms.tasks.values.filterMap fun task => (symbolOf? task).map id).Nodup := by
    decide +kernel
  obtain ⟨-, -, -, passes⟩ :=
    uniqueTreeherderSymbols_goes_by_text (.ofDomain "gecko" "https://ci.example.net") platforms
  exact ⟨told, (passes told).mpr ((nodup_shown_iff id).mp differ)⟩

/-- The slash in the name of a platform is taken for the end of the name. In the same way names
of collections are taken for one another. -/
theorem uniqueTreeherderSymbols_merges_platforms :
    (∃ graph, TaskGraph.ofTasks [mochitest "plain" "linux64" "opt/M" "1",
        mochitest "opt" "linux64/opt" "M" "1"] = .ok graph ∧
      (∀ label other s t, Shown graph label s → Shown graph other t → label ≠ other → s ≠ t) ∧
      uniqueTreeherderSymbols.run (.ofDomain "gecko" "https://ci.example.net") graph =
        .error (.check "unique-treeherder-symbols"
          (.sharedSymbol "plain" (.str "opt") "/linux64/opt/M/1"))) ∧
    Symbol.text ⟨.ofList ["asan,opt"], "linux64", "M", "1"⟩ =
      Symbol.text ⟨.ofList ["asan", "opt"], "linux64", "M", "1"⟩ ∧
    Symbol.text ⟨.ofList [""], "linux64", "M", "1"⟩ = Symbol.text ⟨.empty, "linux64", "M", "1"⟩ := by
  refine ⟨?_, by decide +kernel, by decide +kernel⟩
  obtain ⟨graph, built, found⟩ := exists_ok (x := TaskGraph.ofTasks [mochitest "plain" "linux64" "opt/M" "1",
      mochitest "opt" "linux64/opt" "M" "1"])
    (p := fun graph => (graph.tasks.values.filterMap fun task => (symbolOf? task).map id).Nodup ∧
      uniqueTreeherderSymbols.run (.ofDomain "gecko" "https://ci.example.net") graph =
        .error (.check "unique-treeherder-symbols"
          (.sharedSymbol "plain" (.str "opt") "/linux64/opt/M/1")))
    (by decide +kernel)
  obtain ⟨differ, refused⟩ := of_decide_eq_true found
  exact ⟨graph, built, (nodup_shown_iff id).mp differ, refused⟩

end Check

end TaskPlan
