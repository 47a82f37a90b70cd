import TaskPlan.Proofs.Order.Finite
import TaskPlan.Proofs.Outcome
import TaskPlan.Verify.Standard

/-!
# Texts that come twice

A check for repeated texts notes the label of each text that it has seen (`Noted`). So it
passes exactly if no text of all tasks comes twice (`unique_run_ok_iff`), and else reports
the first one that comes again with the label that it came with before
(`unique_run_error_iff`). The checks of a phase start without notes, so what each of them
finds does not depend on the others (`Checks.run_error_iff`).
-/

namespace TaskPlan

/-- The first text that comes again: before it was there with `other`, now with `label`. -/
def FirstRepeat (entries : List (String × String)) (text label other : String) : Prop :=
  ∃ before after, entries = before ++ (text, label) :: after ∧
    (before.map Prod.fst).Nodup ∧ (text, other) ∈ before

/-- A text that comes again. -/
theorem not_nodup_of_repeat {before after : List (String × String)} {text label other : String}
    (member : (text, other) ∈ before) :
    ¬ ((before ++ (text, label) :: after).map Prod.fst).Nodup := by
  intro distinct
  rw [List.map_append, List.map_cons, List.nodup_append] at distinct
  exact distinct.2.2 text (List.mem_map.mpr ⟨_, member, rfl⟩) text List.mem_cons_self rfl

namespace FirstRepeat

variable {entries : List (String × String)} {text label other : String}

theorem not_nodup (repeated : FirstRepeat entries text label other) :
    ¬ (entries.map Prod.fst).Nodup := by
  obtain ⟨before, after, rfl, -, member⟩ := repeated
  exact not_nodup_of_repeat member

/-- The texts before the second repetition are distinct, so the first is not among them. -/
theorem eq_of_prefix {before between after after' : List (String × String)}
    {entry : String × String} (member : (text, other) ∈ before)
    (distinct : ((before ++ between).map Prod.fst).Nodup)
    (rest : (text, label) :: after = between ++ entry :: after') :
    between = [] ∧ (text, label) = entry := by
  cases between with
  | nil => exact ⟨rfl, (List.cons.inj rest).1⟩
  | cons first between =>
    cases (List.cons.inj rest).1
    exact absurd distinct (not_nodup_of_repeat member)

theorem unique {text' label' other' : String} (first : FirstRepeat entries text label other)
    (second : FirstRepeat entries text' label' other') :
    text = text' ∧ label = label' ∧ other = other' := by
  obtain ⟨before, after, rfl, distinct, member⟩ := first
  obtain ⟨before', after', same, distinct', member'⟩ := second
  have agree : before = before' ∧ (text, label) = (text', label') := by
    rcases List.append_eq_append_iff.mp same with ⟨between, rfl, rest⟩ | ⟨between, rfl, rest⟩
    · obtain ⟨rfl, entry⟩ := eq_of_prefix member distinct' rest
      exact ⟨(List.append_nil _).symm, entry⟩
    · obtain ⟨rfl, entry⟩ := eq_of_prefix member' distinct rest
      exact ⟨List.append_nil _, entry.symm⟩
  obtain ⟨rfl, entry⟩ := agree
  cases entry
  have owner := ((KeyMap.find_eq_some_iff distinct).mpr member).symm.trans
    ((KeyMap.find_eq_some_iff distinct).mpr member')
  exact ⟨rfl, rfl, Option.some.inj owner⟩

end FirstRepeat

namespace Check

variable {name : String} {texts : GraphConfig → Task → List String}
  {fault : (label : String) → (other : Json) → (text : String) → CheckFault}

/-! ### What is noted -/

/-- The texts have been different so far, and each has the label noted that it came with. -/
structure Noted (done : List (String × String)) (notes : Notes) : Prop where
  distinct : (done.map Prod.fst).Nodup
  get?_iff : ∀ text value, notes.get? text = some value ↔
    ∃ label, (text, label) ∈ done ∧ value = .str label

theorem noted_empty : Noted [] .empty where
  distinct := .nil
  get?_iff text value := by simp

theorem Noted.step {done : List (String × String)} {notes next : Notes} {label text : String}
    (noted : Noted done notes) (went : note name fault label notes text = .ok next) :
    Noted (done ++ [(text, label)]) next := by
  rw [note] at went
  split at went
  · cases went
  rename_i fresh
  cases went
  have unseen (other : String) : (text, other) ∉ done := fun member => by
    rw [(noted.get?_iff text _).mpr ⟨other, member, rfl⟩] at fresh
    cases fresh
  constructor
  · rw [List.map_append, List.nodup_append]
    refine ⟨noted.distinct, List.nodup_singleton _, ?_⟩
    rintro _ member _ last rfl
    obtain ⟨⟨_, other⟩, inside, rfl⟩ := List.mem_map.mp member
    cases List.mem_singleton.mp last
    exact unseen other inside
  · intro key value
    rw [KeyMap.get?_insert]
    split
    · rename_i same
      subst same
      simp [unseen, eq_comm]
    · rename_i differs
      simp [noted.get?_iff, Ne.symm differs]

theorem Noted.refuses {done : List (String × String)} {notes : Notes} {label text : String}
    {error : Error} (noted : Noted done notes)
    (failed : note name fault label notes text = .error error) :
    ∃ other, (text, other) ∈ done ∧ error = .check name (fault label (.str other) text) := by
  rw [note] at failed
  split at failed
  · rename_i value found
    obtain ⟨other, member, rfl⟩ := (noted.get?_iff text value).mp found
    cases failed
    exact ⟨other, member, rfl⟩
  · cases failed

/-- The first text that is noted already stops the loop. -/
theorem foldlM_note_outcome (entries : List (String × String)) :
    (∀ notes, entries.foldlM (fun notes entry => note name fault entry.2 notes entry.1) .empty =
      .ok notes → Noted entries notes) ∧
    ∀ error, entries.foldlM (fun notes entry => note name fault entry.2 notes entry.1) .empty =
        .error error →
      ∃ text label other, FirstRepeat entries text label other ∧
        error = .check name (fault label (.str other) text) := by
  refine foldlM_outcome Noted (fun error : Error => ∃ text label other,
    FirstRepeat entries text label other ∧ error = .check name (fault label (.str other) text))
    ?_ noted_empty
  rintro done ⟨text, label⟩ rest notes split noted
  refine ⟨fun next went => noted.step went, fun error failed => ?_⟩
  obtain ⟨other, member, same⟩ := noted.refuses failed
  exact ⟨text, label, other, ⟨done, rest, split, noted.distinct, member⟩, same⟩

/-! ### A run of the check -/

/-- The texts of all tasks in the order of their labels, each with the label of its task. -/
def entries (texts : Task → List String) (graph : TaskGraph) : List (String × String) :=
  graph.tasks.values.flatMap fun task => (texts task).map fun text => (text, task.label)

theorem map_fst_entries (texts : Task → List String) (graph : TaskGraph) :
    (entries texts graph).map Prod.fst = graph.tasks.values.flatMap texts := by
  simp only [entries, List.map_flatMap, List.map_map]
  exact List.flatMap_congr fun task _ => List.map_id _

variable (name texts fault) (config : GraphConfig) (graph : TaskGraph)

theorem run_unique : (unique name texts fault).run config graph =
    ((entries (texts config) graph).foldlM
      (fun notes entry => note name fault entry.2 notes entry.1) .empty).map fun _ => () := by
  rw [entries, foldlM_flatMap]
  simp only [List.foldlM_map]
  rfl

theorem unique_outcome :
    ((unique name texts fault).run config graph = .ok () →
      ((entries (texts config) graph).map Prod.fst).Nodup) ∧
    ∀ error, (unique name texts fault).run config graph = .error error →
      ∃ text label other, FirstRepeat (entries (texts config) graph) text label other ∧
        error = .check name (fault label (.str other) text) := by
  obtain ⟨passes, fails⟩ := foldlM_note_outcome (entries (texts config) graph)
  rw [run_unique]
  constructor
  · intro went
    obtain ⟨notes, went, -⟩ := map_ok_iff.mp went
    exact (passes notes went).distinct
  · intro error went
    exact fails error (map_error_iff.mp went)

theorem unique_run_ok_iff : (unique name texts fault).run config graph = .ok () ↔
    (graph.tasks.values.flatMap (texts config)).Nodup := by
  obtain ⟨passes, fails⟩ := unique_outcome name texts fault config graph
  rw [← map_fst_entries]
  refine ⟨passes, fun distinct => ?_⟩
  cases went : (unique name texts fault).run config graph with
  | ok _ => rfl
  | error error =>
    obtain ⟨text, label, other, repeated, -⟩ := fails error went
    exact absurd distinct repeated.not_nodup

theorem unique_run_error_iff (error : Error) :
    (unique name texts fault).run config graph = .error error ↔
      ∃ text label other, FirstRepeat (entries (texts config) graph) text label other ∧
        error = .check name (fault label (.str other) text) := by
  obtain ⟨passes, fails⟩ := unique_outcome name texts fault config graph
  refine ⟨fails error, ?_⟩
  rintro ⟨text, label, other, repeated, rfl⟩
  cases went : (unique name texts fault).run config graph with
  | ok _ => exact absurd (passes went) repeated.not_nodup
  | error error =>
    obtain ⟨text', label', other', repeated', rfl⟩ := fails error went
    obtain ⟨rfl, rfl, rfl⟩ := repeated.unique repeated'
    rfl

end Check

namespace Checks

variable {checks : Checks} {phase : Phase} {config : GraphConfig} {graph : TaskGraph}

theorem run_error_iff {error : Error} : checks.run phase config graph = .error error ↔
    ∃ before check after, checks.ofPhase phase = before ++ check :: after ∧
      (∀ earlier ∈ before, earlier.run config graph = .ok ()) ∧
      check.run config graph = .error error := forM_error_iff

/-- Behind checks that pass, a check finds what it finds by itself. -/
theorem run_of_passed {before after : List Check} {check : Check}
    (split : checks.ofPhase phase = before ++ check :: after)
    (passed : ∀ earlier ∈ before, earlier.run config graph = .ok ()) :
    checks.run phase config graph =
      check.run config graph >>= fun _ => after.forM fun later => later.run config graph := by
  rw [run, split, forM_append_of_ok passed]
  rfl

end Checks

end TaskPlan
