import TaskPlan.Proofs.Json.Inside
import TaskPlan.Proofs.Outcome
import TaskPlan.Reference.Placeholder

/-!
# Values without placeholders

A replacement leaves lists and mappings with their keys and puts texts in the place of
placeholders. So no placeholder of the kinds that were replaced is left in the outcome,
and none of other kinds appears (`replace_free`). Resolving replaces those of all kinds
in two passes (`Resolver.resolve_free`).
-/

namespace TaskPlan

namespace Placeholder

variable {kinds others : List Placeholder} {placeholder : Placeholder} {fields : Fields}

/-- The value is a mapping whose only key is that of the placeholder. -/
def Marks (placeholder : Placeholder) (value : Json) : Prop :=
  ∃ content, value = .obj [(placeholder.key, content)]

/-- No part of the value is a placeholder of these kinds. -/
def Free (kinds : List Placeholder) (value : Json) : Prop :=
  ∀ part, part.Inside value → ∀ placeholder ∈ kinds, ¬ placeholder.Marks part

theorem marks_obj : placeholder.Marks (.obj fields) ↔ fields.keys = [placeholder.key] := by
  constructor
  · rintro ⟨content, same⟩
    cases same
    rfl
  · intro only
    match fields, only with
    | [(_, content)], only =>
      cases only
      exact ⟨content, rfl⟩

/-- A mapping with a key of its own besides is no placeholder. -/
theorem not_marks_of_contains {key : String} (found : Fields.contains fields key = true)
    (other : key ≠ placeholder.key) : ¬ placeholder.Marks (.obj fields) := by
  rintro ⟨content, same⟩
  cases same
  simp [Fields.contains, Fields.get?, Ne.symm other] at found

theorem find?_eq_none_iff :
    find? kinds fields = none ↔ ∀ placeholder ∈ kinds, ¬ placeholder.Marks (.obj fields) := by
  simp only [marks_obj]
  match fields with
  | [] => simp [find?, Fields.keys]
  | [(name, content)] => simp [find?, Fields.keys, @eq_comm _ name]
  | _ :: _ :: _ => simp [find?, Fields.keys]

/-! ### Free values -/

theorem Free.mono {value : Json} (free : Free kinds value)
    (sub : ∀ placeholder ∈ others, placeholder ∈ kinds) : Free others value :=
  fun part inside placeholder member => free part inside placeholder (sub placeholder member)

theorem free_nil (value : Json) : Free [] value := by
  intro part _ placeholder member
  cases member

/-- A value without parts is free unless it is a mapping. -/
theorem free_leaf {value : Json} (whole : ∀ part, part.Inside value → part = value)
    (plain : value.obj? = none) : Free kinds value := by
  rintro part inside placeholder _ ⟨content, rfl⟩
  rw [← whole _ inside] at plain
  cases plain

theorem free_str (s : String) : Free kinds (.str s) :=
  free_leaf (fun _ inside => by cases inside; rfl) rfl

theorem free_arr {items : List Json} : Free kinds (.arr items) ↔ ∀ item ∈ items, Free kinds item := by
  constructor
  · intro free item member part inside
    exact free part (.item member inside)
  · intro free part inside placeholder known
    cases inside with
    | whole =>
      rintro ⟨_, same⟩
      cases same
    | item member inside => exact free _ member part inside placeholder known

theorem free_obj : Free kinds (.obj fields) ↔
    (∀ placeholder ∈ kinds, ¬ placeholder.Marks (.obj fields)) ∧ ∀ entry ∈ fields, Free kinds entry.2 := by
  constructor
  · intro free
    exact ⟨free _ (.whole _), fun entry member part inside => free part (.entry member inside)⟩
  · rintro ⟨plain, free⟩ part inside placeholder known
    cases inside with
    | whole => exact plain placeholder known
    | entry member inside => exact free _ member part inside placeholder known

/-! ### Replacing -/

section Replace

variable {evaluate : Placeholder → Json → Result Json}

/-- A mapping keeps its keys. -/
theorem keys_replaceFields {fields results : Fields}
    (h : replaceFields kinds evaluate fields = .ok results) : results.keys = fields.keys := by
  induction fields generalizing results with
  | nil =>
    cases h
    rfl
  | cons entry rest ih =>
    obtain ⟨key, value⟩ := entry
    obtain ⟨result, _, h⟩ := bind_ok_iff.mp h
    obtain ⟨later, replaced, h⟩ := bind_ok_iff.mp h
    cases h
    exact congrArg (key :: ·) (ih replaced)

/-- Placeholders are evaluated to texts. -/
def Textual (evaluate : Placeholder → Json → Result Json) : Prop :=
  ∀ placeholder content result, evaluate placeholder content = .ok result → ∃ s, result = .str s

mutual

/-- What is left has no placeholder of the kinds that are replaced, and none of the others
if it had none before. -/
theorem replace_free (texts : Textual evaluate) : ∀ value result, Free others value →
    replace kinds evaluate value = .ok result → Free (kinds ++ others) result
  | .arr items, result, free, h => by
    rw [replace] at h
    obtain ⟨results, replaced, rfl⟩ := map_ok_iff.mp h
    exact free_arr.mpr (replaceItems_free texts items results (free_arr.mp free) replaced)
  | .obj fields, result, free, h => by
    rw [replace] at h
    split at h
    · obtain ⟨s, rfl⟩ := texts _ _ _ h
      exact free_str s
    · rename_i plain
      obtain ⟨results, replaced, rfl⟩ := map_ok_iff.mp h
      obtain ⟨plainToo, free⟩ := free_obj.mp free
      refine free_obj.mpr ⟨fun placeholder known => ?_,
        replaceFields_free texts fields results free replaced⟩
      -- being a placeholder is a matter of the keys, which stay
      rw [marks_obj, keys_replaceFields replaced, ← marks_obj]
      rcases List.mem_append.mp known with here | there
      · exact find?_eq_none_iff.mp plain placeholder here
      · exact plainToo placeholder there
  | .str s, result, _, h => by
    cases h
    exact free_str s
  | .null, result, _, h | .bool _, result, _, h | .num _, result, _, h => by
    cases h
    exact free_leaf (fun _ inside => by cases inside; rfl) rfl

theorem replaceItems_free (texts : Textual evaluate) : ∀ items results,
    (∀ item ∈ items, Free others item) → replaceItems kinds evaluate items = .ok results →
    ∀ result ∈ results, Free (kinds ++ others) result
  | [], results, _, h => by
    cases h
    exact List.forall_mem_nil _
  | item :: rest, results, free, h => by
    obtain ⟨here, later⟩ := List.forall_mem_cons.mp free
    obtain ⟨result, replaced, h⟩ := bind_ok_iff.mp h
    obtain ⟨more, replacedToo, h⟩ := bind_ok_iff.mp h
    cases h
    exact List.forall_mem_cons.mpr
      ⟨replace_free texts item result here replaced, replaceItems_free texts rest more later replacedToo⟩

theorem replaceFields_free (texts : Textual evaluate) : ∀ fields results : List (String × Json),
    (∀ entry ∈ fields, Free others entry.2) → replaceFields kinds evaluate fields = .ok results →
    ∀ entry ∈ results, Free (kinds ++ others) entry.2
  | [], results, _, h => by
    cases h
    exact List.forall_mem_nil _
  | (key, value) :: rest, results, free, h => by
    obtain ⟨here, later⟩ := List.forall_mem_cons.mp free
    obtain ⟨result, replaced, h⟩ := bind_ok_iff.mp h
    obtain ⟨more, replacedToo, h⟩ := bind_ok_iff.mp h
    cases h
    exact List.forall_mem_cons.mpr
      ⟨replace_free texts value result here replaced, replaceFields_free texts rest more later replacedToo⟩

end

end Replace

end Placeholder

/-! ### Resolving -/

theorem resolveTimestamps_free {now : Instant} {label : String} {value result : Json}
    (h : resolveTimestamps now label value = .ok result) :
    Placeholder.Free [.relativeDatestamp] result := by
  have free : Placeholder.Free [] value := Placeholder.free_nil value
  refine Placeholder.replace_free ?_ value result free h
  intro placeholder content stamp evaluated
  obtain ⟨input, -, evaluated⟩ := bind_ok_iff.mp evaluated
  split at evaluated
  · cases evaluated
    exact ⟨_, rfl⟩
  · cases evaluated

theorem resolveReferences_free {context : ReferenceContext} {rootUrl : String} {value result : Json}
    {others : List Placeholder} (free : Placeholder.Free others value)
    (h : resolveReferences context rootUrl value = .ok result) :
    Placeholder.Free ([.taskReference, .artifactReference] ++ others) result := by
  refine Placeholder.replace_free ?_ value result free h
  intro placeholder content text evaluated
  obtain ⟨input, -, evaluated⟩ := bind_ok_iff.mp evaluated
  split at evaluated
  · cases evaluated
    exact ⟨_, rfl⟩
  · cases evaluated

/-- No placeholder is left in a value that has been resolved. -/
theorem Resolver.resolve_free {resolver : Resolver} {context : ReferenceContext} {value result : Json}
    (h : resolver.resolve context value = .ok result) : Placeholder.Free Placeholder.all result := by
  obtain ⟨dated, stamped, h⟩ := bind_ok_iff.mp h
  refine (resolveReferences_free (resolveTimestamps_free stamped) h).mono ?_
  simp [Placeholder.all]

end TaskPlan
