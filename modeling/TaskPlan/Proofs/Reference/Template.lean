import TaskPlan.Proofs.Outcome
import TaskPlan.Reference.Template

/-!
# Rendering with other ids

A template that can be rendered with some ids has the same text with more of them
(`render_of_extends`), as long as the name `<` is not among the new ones: without an id
it stands for itself. Only the ids of the names in a template matter (`render_congr`), and
all of them do (`render_missing`).
-/

namespace TaskPlan

namespace Template

/-- `more` has the ids of `ids` and others, but none that is new for the name `<`. -/
structure Extends (ids more : String → Option String) : Prop where
  kept : ∀ name id, ids name = some id → more name = some id
  literal : ids "<" = none → more "<" = none

variable {ids more : String → Option String}

theorem Piece.render_of_extends (grown : Extends ids more) {piece : Piece} {text : List Char}
    (rendered : piece.render ids = .ok text) : piece.render more = .ok text := by
  cases piece with
  | char c => exact rendered
  | group content =>
    simp only [render] at rendered ⊢
    cases found : ids (String.ofList content) with
    | some id =>
      rw [found] at rendered
      rw [grown.kept _ id found]
      exact rendered
    | none =>
      rw [found] at rendered
      simp only at rendered
      split at rendered
      · rename_i literal
        rw [literal] at found ⊢
        rw [grown.literal found]
        exact rendered
      · cases rendered

theorem render_of_extends (grown : Extends ids more) {template text : String}
    (rendered : render ids template = .ok text) : render more template = .ok text := by
  unfold render at rendered ⊢
  cases parts : (pieces template.toList).mapM (Piece.render ids) with
  | error name =>
    rw [parts] at rendered
    cases rendered
  | ok texts =>
    rw [parts] at rendered
    have others := mapM_ok_iff.mpr
      ((mapM_ok_iff.mp parts).imp fun _ _ here => Piece.render_of_extends grown here)
    rw [others]
    exact rendered

/-! ### The names in a template -/

def Piece.name? : Piece → Option String
  | .char _ => none
  | .group content => some (String.ofList content)

def names (template : String) : List String := (pieces template.toList).filterMap Piece.name?

variable {others : String → Option String} {template : String}

theorem render_congr (same : ∀ name ∈ names template, ids name = others name) :
    render ids template = render others template := by
  have each : ∀ piece ∈ pieces template.toList, piece.render ids = piece.render others := by
    intro piece member
    cases piece with
    | char c => rfl
    | group content =>
      have named := same _ (List.mem_filterMap.mpr ⟨.group content, member, rfl⟩)
      simp only [Piece.render, named]
  rw [render, render, mapM_congr each]

/-- A template with a name that has no id cannot be rendered. -/
theorem render_missing {name text : String} (member : name ∈ names template)
    (literal : name ≠ "<") (missing : ids name = none) : render ids template ≠ .ok text := by
  intro rendered
  obtain ⟨parts, rendered, -⟩ := map_ok_iff.mp rendered
  obtain ⟨piece, inside, named⟩ := List.mem_filterMap.mp member
  obtain ⟨part, -, here⟩ := exists_mapM_ok rendered inside
  cases piece with
  | char c => cases named
  | group content =>
    cases named
    simp only [Piece.render, missing, if_neg literal] at here
    cases here

end Template

end TaskPlan
