import TaskPlan.Proofs.Shape.Again
import TaskPlan.Proofs.TaskDescription.Resolved

/-!
# Descriptions that are validated again

The shapes of task descriptions, workers and optimizations accept their results as they are:
each part of a result conforms to the alternatives to which the part of the value conforms,
none is keyed in the place of one that is not, and the defaults conform to the shapes of
their fields (`validate_again`).
-/

namespace TaskPlan

open Shape

/-- The value that is filled in. -/
def Presence.value? : Presence → Option Json
  | .default value => some value
  | _ => none

namespace TaskDescription

/-- The shapes of descriptions and of the parts that are checked by themselves. -/
def ownShapes : List Shape := [shape, workerShape, optimizationShape]

theorem ownShapes_regular : ∀ own ∈ ownShapes, own.regular = true := by
  simp only [ownShapes, List.forall_mem_cons, List.not_mem_nil, false_implies, implies_true, and_true]
  exact ⟨shape_regular, by cbv, by cbv⟩

theorem ownShapes_unmarked : ∀ own ∈ ownShapes, own.unmarked := by decide +kernel

theorem ownShapes_plainDefaults : ∀ own ∈ ownShapes, ∀ field ∈ own.declared,
    ∀ default ∈ field.presence.value?, KeyedBy.parts? default = none := by decide +kernel

/-- What a description, a worker or an optimization is validated to is validated again with the
same result. In all its parts it conforms to the alternatives to which the value conforms, and
none that was plain is keyed. The defaults conform to the shapes of their fields, and are plain. -/
theorem validate_again (own : Shape) (member : own ∈ ownShapes) :
    (∀ value result context, own.validate value context = .ok result →
      (∀ later, own.validate result later = .ok result) ∧
        (value.Distinct → ∀ inner part other, Meets own value result inner part other →
          inner.validate part context = .ok other ∧
            (∀ alternatives, inner = .oneOf alternatives → ∀ alternative ∈ alternatives,
              Conforms alternative part ↔ Conforms alternative other) ∧
            (KeyedBy.parts? part = none → KeyedBy.parts? other = none))) ∧
      ∀ field ∈ own.declared, ∀ default ∈ field.presence.value?,
        Conforms field.shape default ∧ KeyedBy.parts? default = none := by
  have regular := ownShapes_regular own member
  constructor
  · intro value result context valid
    have completes := validate_ok_iff.mp valid
    refine ⟨fun later => ?_, fun distinct inner part other meets => ?_⟩
    · exact validate_ok_iff.mpr (settled_of_completes own regular value result completes)
    · obtain ⟨accepted, alternatives, plain⟩ :=
        meets.keeps regular (ownShapes_unmarked own member) distinct completes
      exact ⟨validate_ok_iff.mpr accepted, alternatives, plain⟩
  · intro field declared default given
    have presence : field.presence = .default default := by
      unfold Presence.value? at given
      split at given <;> simp_all
    have settled := settled_declared own regular field declared default presence
    exact ⟨conforms_iff.mpr ⟨default, settled⟩, ownShapes_plainDefaults own member field declared default given⟩

/-- An image by level, and an artifact whose type is left out. -/
def givenWorker : Json := .obj [
  ("artifacts", .arr [.obj [("name", .str "log"), ("path", .str "build.log")]]),
  ("docker-image", .obj [("by-level", .obj [("3", .str "signed"), ("default", .obj [])])]),
  ("implementation", .str "docker-worker"),
  ("max-run-time", .num (.int 3600 rfl))]

def filledWorker : Json := .obj [
  ("artifacts", .arr [.obj [("name", .str "log"), ("path", .str "build.log"), ("type", .str "file")]]),
  ("docker-image", .obj [("by-level", .obj [("3", .str "signed"), ("default", .obj [])])]),
  ("implementation", .str "docker-worker"),
  ("max-run-time", .num (.int 3600 rfl)),
  ("command", .arr []),
  ("env", .obj [])]

theorem validate_again_docker : workerShape.validate givenWorker "worker" = .ok filledWorker ∧
    workerShape.validate filledWorker "again" = .ok filledWorker ∧
    (∀ alternatives, workerShape = .oneOf alternatives → ∀ alternative ∈ alternatives,
      Conforms alternative givenWorker ↔ Conforms alternative filledWorker) ∧
    KeyedBy.parts? filledWorker = none := by
  have valid : workerShape.validate givenWorker "worker" = .ok filledWorker :=
    ok_of_toOption (by decide +kernel)
  have leaf (text : String) : (Json.str text).Distinct := Json.distinct_leaf rfl rfl
  have number : (Json.num (.int 3600 rfl)).Distinct := Json.distinct_leaf rfl rfl
  have distinct : givenWorker.Distinct := by
    simp [givenWorker, Json.distinct_obj, Json.distinct_arr, Fields.keys, leaf, number]
  obtain ⟨again, -⟩ := validate_again workerShape (by simp [ownShapes])
  obtain ⟨later, parts⟩ := again givenWorker filledWorker "worker" valid
  obtain ⟨-, alternatives, plain⟩ := parts distinct workerShape givenWorker filledWorker .whole
  exact ⟨valid, later "again", alternatives, plain rfl⟩

end TaskDescription

end TaskPlan
