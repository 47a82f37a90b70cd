import TaskPlan.Proofs.Outcome
import TaskPlan.Shape.Check

/-!
# Lists, mappings and keyed-by mappings

A checker accepts a value if it finds no violation. Whether it does, and with which result,
should not depend on the path that opens the violations (`PathFree`). The rules here say so
without paths for the checkers of lists and mappings (`checkList_ok_iff`, `checkMap_ok_iff`)
and for keyed-by mappings at any depth (`checkKeyed_ok_iff`), given a checker for which it
holds.
-/

namespace TaskPlan

namespace Shape

/-- The checker accepts the value with this result, at whatever path. -/
def Gives (checker : Checker) (value result : Json) : Prop := ∀ path, checker path value = .ok result

/-- The checker accepts a value at all paths or at none, with one result. -/
def PathFree (checker : Checker) : Prop :=
  ∀ path value result, checker path value = .ok result → Gives checker value result

variable {inner : Checker} {path : String} {value result : Json}

theorem PathFree.gives (free : PathFree inner) : inner path value = .ok result ↔ Gives inner value result :=
  ⟨free path value result, fun gives => gives path⟩

namespace Checked

theorem mk_eq_ok {violations : List Violation} :
    (⟨value, violations⟩ : Checked) = .ok result ↔ value = result ∧ violations = [] := by
  simp [ok]

theorem failed_ne_ok {message : String} : failed value path message ≠ .ok result := by
  simp [failed, ok]

theorem fits_iff {checked : Checked} : checked.fits = true ↔ checked = .ok checked.value := by
  obtain ⟨value, violations⟩ := checked
  simp [fits, ok]

theorem ok_fits (value : Json) : (ok value).fits = true := rfl

end Checked

theorem checkKind_ok_iff {description : String} {test : Json → Bool} :
    checkKind description test path value = .ok result ↔ test value = true ∧ result = value := by
  unfold checkKind
  split
  · simp [*, Checked.ok, eq_comm]
  · simp [*, Checked.failed_ne_ok]

/-! ### Lists and mappings -/

theorem checkItems_ok_iff (free : PathFree inner) {index : Nat} {items results : List Json} :
    (checkItems inner path index items).map Checked.value = results ∧
      (checkItems inner path index items).flatMap Checked.violations = [] ↔
      List.Forall₂ (Gives inner) items results := by
  induction items generalizing index results with
  | nil => simp [checkItems, eq_comm]
  | cons item rest ih =>
    rw [checkItems, List.map_cons, List.flatMap_cons, List.append_eq_nil_iff,
      List.forall₂_cons_left_iff]
    constructor
    · rintro ⟨rfl, clean, later⟩
      have here : inner (joinPath path (toString index)) item = .ok _ :=
        Checked.fits_iff.mp (List.isEmpty_iff.mpr clean)
      exact ⟨_, _, free.gives.mp here, ih.mp ⟨rfl, later⟩, rfl⟩
    · rintro ⟨result, results, here, later, rfl⟩
      obtain ⟨values, clean⟩ := ih.mpr later
      rw [here, values]
      exact ⟨rfl, rfl, clean⟩

theorem checkList_ok_iff (free : PathFree inner) {description : String} :
    checkList description inner path value = .ok result ↔
      ∃ items results, value = .arr items ∧ result = .arr results ∧
        List.Forall₂ (Gives inner) items results := by
  unfold checkList
  split
  · rename_i items
    simp only [Checked.mk_eq_ok, Json.arr.injEq, exists_and_left, exists_eq_left']
    constructor
    · rintro ⟨rfl, clean⟩
      exact ⟨_, rfl, (checkItems_ok_iff free).mp ⟨rfl, clean⟩⟩
    · rintro ⟨results, rfl, each⟩
      obtain ⟨values, clean⟩ := (checkItems_ok_iff free).mpr each
      exact ⟨congrArg Json.arr values, clean⟩
  · rename_i other
    simp only [Checked.failed_ne_ok, false_iff]
    rintro ⟨items, _, rfl, -⟩
    exact other items rfl

/-- Entries and results at the same places, under the same keys. -/
def Entrywise (rel : Json → Json → Prop) : Fields → Fields → Prop :=
  List.Forall₂ fun entry result => result.1 = entry.1 ∧ rel entry.2 result.2

theorem gather_ok_iff {entries : List (String × Checked)} :
    gather entries = .ok result ↔ ∃ results, result = .obj results ∧
      List.Forall₂ (fun entry result => result.1 = entry.1 ∧ entry.2 = .ok result.2) entries results := by
  rw [gather, Checked.mk_eq_ok]
  constructor
  · rintro ⟨rfl, clean⟩
    refine ⟨_, rfl, List.forall₂_map_right_iff.mpr (List.forall₂_same.mpr fun entry member => ?_)⟩
    have here := List.flatMap_eq_nil_iff.mp clean entry member
    exact ⟨rfl, Checked.fits_iff.mp (List.isEmpty_iff.mpr here)⟩
  · rintro ⟨results, rfl, each⟩
    induction each with
    | nil => exact ⟨rfl, rfl⟩
    | @cons entry result rest others here _ ih =>
      obtain ⟨key, checked⟩ := entry
      obtain ⟨_, value⟩ := result
      obtain ⟨rfl, rfl⟩ := here
      obtain ⟨values, clean⟩ := ih
      rw [Json.obj.injEq] at values
      rw [List.map_cons, List.flatMap_cons, values, clean]
      exact ⟨rfl, rfl⟩

theorem checkMap_ok_iff (free : PathFree inner) {description : String} :
    checkMap description inner path value = .ok result ↔
      ∃ entries results, value = .obj entries ∧ result = .obj results ∧
        Entrywise (Gives inner) entries results := by
  unfold checkMap
  split
  · rename_i entries
    rw [gather_ok_iff]
    simp only [checkEntries, List.forall₂_map_left_iff, free.gives, Json.obj.injEq, exists_and_left,
      exists_eq_left', Entrywise]
  · rename_i other
    simp only [Checked.failed_ne_ok, false_iff]
    rintro ⟨entries, _, rfl, -⟩
    exact other entries rfl

/-! ### Keyed-by mappings -/

mutual

/-- A keyed-by mapping names an allowed discriminant, and its alternatives are accepted, each
of which may be keyed again; any other value is one that `inner` accepts. -/
inductive KeyedGives (discriminants : List String) (inner : Checker) : Json → Json → Prop where
  | plain {value result : Json} (unkeyed : KeyedBy.parts? value = none)
      (gives : Gives inner value result) : KeyedGives discriminants inner value result
  | keyed {key name : String} {entries results : Fields}
      (marked : Text.after? KeyedBy.marker key = some name) (allowed : name ∈ discriminants)
      (alternatives : AlternativesGive discriminants inner entries results) :
      KeyedGives discriminants inner (.obj [(key, .obj entries)]) (.obj [(key, .obj results)])

inductive AlternativesGive (discriminants : List String) (inner : Checker) : Fields → Fields → Prop where
  | nil : AlternativesGive discriminants inner [] []
  | cons {key : String} {value result : Json} {rest others : Fields}
      (here : KeyedGives discriminants inner value result)
      (later : AlternativesGive discriminants inner rest others) :
      AlternativesGive discriminants inner ((key, value) :: rest) ((key, result) :: others)

end

section Keyed

variable {discriminants : List String}

mutual

/-- What holds of plain values, and of a keyed-by mapping if it holds of its alternatives, holds
of all that is accepted. -/
theorem KeyedGives.elim {motive : Json → Json → Prop}
    (plain : ∀ value result, KeyedBy.parts? value = none → Gives inner value result → motive value result)
    (keyed : ∀ name ∈ discriminants, ∀ key entries results, Text.after? KeyedBy.marker key = some name →
      Entrywise motive entries results → motive (.obj [(key, .obj entries)]) (.obj [(key, .obj results)]))
    {value result : Json} : KeyedGives discriminants inner value result → motive value result
  | .plain unkeyed gives => plain _ _ unkeyed gives
  | .keyed marked allowed alternatives =>
    keyed _ allowed _ _ _ marked (AlternativesGive.elim plain keyed alternatives)

theorem AlternativesGive.elim {motive : Json → Json → Prop}
    (plain : ∀ value result, KeyedBy.parts? value = none → Gives inner value result → motive value result)
    (keyed : ∀ name ∈ discriminants, ∀ key entries results, Text.after? KeyedBy.marker key = some name →
      Entrywise motive entries results → motive (.obj [(key, .obj entries)]) (.obj [(key, .obj results)]))
    {entries results : Fields} :
    AlternativesGive discriminants inner entries results → Entrywise motive entries results
  | .nil => .nil
  | .cons here later =>
    .cons ⟨rfl, KeyedGives.elim plain keyed here⟩ (AlternativesGive.elim plain keyed later)

end

theorem keyedGives_of_unkeyed (unkeyed : KeyedBy.parts? value = none) :
    KeyedGives discriminants inner value result ↔ Gives inner value result := by
  refine ⟨fun gives => ?_, .plain unkeyed⟩
  cases gives with
  | plain _ gives => exact gives
  | keyed marked _ _ => simp [marked, KeyedBy.parts?] at unkeyed

theorem checkKeyed_of_unkeyed (unkeyed : KeyedBy.parts? value = none) :
    checkKeyed discriminants inner path value = inner path value := by
  unfold checkKeyed
  split
  · rename_i key content
    have plain : Text.after? KeyedBy.marker key = none := Option.map_eq_none_iff.mp unkeyed
    rw [plain]
  · rfl

theorem checkKeyed_keyed {key name : String} {content : Json}
    (marked : Text.after? KeyedBy.marker key = some name) :
    checkKeyed discriminants inner path (.obj [(key, content)]) = .ok result ↔
      name ∈ discriminants ∧ ∃ checked, result = .obj [(key, checked)] ∧
        checkContent discriminants inner (joinPath path key) content = .ok checked := by
  rw [checkKeyed, marked]
  simp only [List.contains_iff_mem]
  split
  · rename_i allowed
    rw [Checked.mk_eq_ok]
    constructor
    · rintro ⟨rfl, clean⟩
      exact ⟨allowed, _, rfl, Checked.fits_iff.mp (List.isEmpty_iff.mpr clean)⟩
    · rintro ⟨-, checked, rfl, accepted⟩
      rw [accepted]
      exact ⟨rfl, rfl⟩
  · rename_i refused
    simp only [Checked.failed_ne_ok, false_iff]
    exact fun accepted => refused accepted.1

mutual

theorem checkKeyed_ok_iff (free : PathFree inner) : ∀ (value : Json) (path : String) (result : Json),
    checkKeyed discriminants inner path value = .ok result ↔
      KeyedGives discriminants inner value result
  | .obj [(key, content)], path, result => by
    cases marked : Text.after? KeyedBy.marker key with
    | none =>
      have unkeyed : KeyedBy.parts? (.obj [(key, content)]) = none := by simp [marked, KeyedBy.parts?]
      rw [checkKeyed_of_unkeyed unkeyed, keyedGives_of_unkeyed unkeyed, free.gives]
    | some name =>
      rw [checkKeyed_keyed marked]
      simp only [checkContent_ok_iff free content]
      constructor
      · rintro ⟨allowed, checked, rfl, entries, results, rfl, rfl, each⟩
        exact .keyed marked allowed each
      · intro gives
        cases gives with
        | plain unkeyed _ => simp [marked, KeyedBy.parts?] at unkeyed
        | keyed marked' allowed each =>
          cases marked.symm.trans marked'
          exact ⟨allowed, _, rfl, _, _, rfl, rfl, each⟩
  | .null, path, result => by
    rw [checkKeyed_of_unkeyed rfl, keyedGives_of_unkeyed rfl, free.gives]
  | .bool _, path, result => by
    rw [checkKeyed_of_unkeyed rfl, keyedGives_of_unkeyed rfl, free.gives]
  | .num _, path, result => by
    rw [checkKeyed_of_unkeyed rfl, keyedGives_of_unkeyed rfl, free.gives]
  | .str _, path, result => by
    rw [checkKeyed_of_unkeyed rfl, keyedGives_of_unkeyed rfl, free.gives]
  | .arr _, path, result => by
    rw [checkKeyed_of_unkeyed rfl, keyedGives_of_unkeyed rfl, free.gives]
  | .obj [], path, result => by
    rw [checkKeyed_of_unkeyed rfl, keyedGives_of_unkeyed rfl, free.gives]
  | .obj (_ :: _ :: _), path, result => by
    rw [checkKeyed_of_unkeyed rfl, keyedGives_of_unkeyed rfl, free.gives]

theorem checkContent_ok_iff (free : PathFree inner) : ∀ (content : Json) (place : String) (result : Json),
    checkContent discriminants inner place content = .ok result ↔
      ∃ entries results, content = .obj entries ∧ result = .obj results ∧
        AlternativesGive discriminants inner entries results
  | .obj entries, place, result => by
    rw [checkContent, gather_ok_iff]
    simp only [checkAlternatives_ok_iff free entries, Json.obj.injEq, exists_and_left, exists_eq_left']
  | .null, place, result => by simp [checkContent, Checked.failed_ne_ok]
  | .bool _, place, result => by simp [checkContent, Checked.failed_ne_ok]
  | .num _, place, result => by simp [checkContent, Checked.failed_ne_ok]
  | .str _, place, result => by simp [checkContent, Checked.failed_ne_ok]
  | .arr _, place, result => by simp [checkContent, Checked.failed_ne_ok]

theorem checkAlternatives_ok_iff (free : PathFree inner) :
    ∀ (entries : List (String × Json)) (place : String) (results : Fields),
    List.Forall₂ (fun entry result => result.1 = entry.1 ∧ entry.2 = .ok result.2)
        (checkAlternatives discriminants inner place entries) results ↔
      AlternativesGive discriminants inner entries results
  | [], place, results => by
    rw [checkAlternatives, List.forall₂_nil_left_iff]
    constructor
    · rintro rfl
      exact .nil
    · rintro ⟨⟩
      rfl
  | (key, value) :: rest, place, results => by
    rw [checkAlternatives, List.forall₂_cons_left_iff]
    simp only [checkKeyed_ok_iff free value, checkAlternatives_ok_iff free rest]
    constructor
    · rintro ⟨⟨_, result⟩, others, ⟨rfl, here⟩, later, rfl⟩
      exact .cons here later
    · intro each
      cases each with
      | cons here later => exact ⟨_, _, ⟨rfl, here⟩, later, rfl⟩

end

end Keyed

end Shape

end TaskPlan
