import TaskPlan.Proofs.KeyedBy.Order
import TaskPlan.Proofs.TaskDescription.Sound

/-!
# Keyed-by fields of a description in any order

A checked description has no field with the name of a discriminant, and what its fields are
keyed by are discriminants alone, also in alternatives of alternatives. So its keyed-by fields
may be resolved in any order (`resolveAll_any_order`); without the check the order may matter
(`resolveAll_order_matters`).
-/

namespace TaskPlan

/-- A shape of values that are keyed by the named discriminants or are plain. -/
def Shape.isKeyedBy (names : List String) : Shape → Bool
  | .keyedBy discriminants inner => discriminants == names && inner.rigid
  | _ => false

theorem KeyedBy.decidedBy_of_isKeyedBy [Regex.Engine] {names : List String} {shape : Shape} {value : Json}
    (keyed : shape.isKeyedBy names = true) (settled : shape.Settled value) : DecidedBy names value := by
  unfold Shape.isKeyedBy at keyed
  split at keyed
  · obtain ⟨same, stiff⟩ := Bool.and_eq_true_iff.mp keyed
    rw [beq_iff_eq] at same
    subst same
    exact decidedBy_of_settled stiff settled
  · cases keyed

namespace TaskDescription

open KeyedBy

theorem keyedFields_separate : Separate discriminants keyedFields where
  apart := by decide
  clear := by decide

theorem keyedFields_isKeyedBy {field : String} (member : field ∈ keyedFields) {inner : Shape}
    (within : inner ∈ shape.underPath (segments field)) : inner.isKeyedBy discriminants = true := by
  have each : (keyedFields.all fun field =>
      (shape.underPath (segments field)).all (·.isKeyedBy discriminants)) = true := by cbv
  exact List.all_eq_true.mp (List.all_eq_true.mp each field member) inner within

theorem discriminants_nowhere {name : String} (named : name ∈ discriminants) :
    shape.underPath (segments name) = [] := by
  have each : (discriminants.all fun name => (shape.underPath (segments name)).isEmpty) = true := by cbv
  exact List.isEmpty_iff.mp (List.all_eq_true.mp each name named)

theorem ready_of_settled [Regex.Engine] {job : Job} (settled : shape.Settled job.value) :
    Ready discriminants keyedFields job where
  silent name named := by
    by_contra there
    obtain ⟨value, found⟩ := Option.ne_none_iff_exists'.mp there
    obtain ⟨inner, member, -⟩ := Shape.settled_getAt (segments_ne_nil name) settled found
    rw [discriminants_nowhere named] at member
    cases member
  decided field member value found := by
    obtain ⟨inner, within, accepted⟩ := Shape.settled_getAt (segments_ne_nil field) settled found
    exact decidedBy_of_isKeyedBy (keyedFields_isKeyedBy member within) accepted

/-- The fields of a checked description may be resolved in any order: all orders fail or all lead
to the same job. -/
theorem resolveAll_any_order [Regex.Engine] {config : StageConfig} {job checked : Job} {fields : List String}
    (validated : Stage.checkShape shape config job = .ok checked) (perm : fields.Perm keyedFields)
    (context : String) (params : Fields) (resolved : Job) :
    resolveAll fields context params checked = .ok resolved ↔
      resolveAll keyedFields context params checked = .ok resolved :=
  resolveAll_perm perm.symm keyedFields_separate (ready_of_settled (settled_of_checkShape validated))

theorem resolveAll_any_order_build : ∃ checked resolved,
    Stage.checkShape shape branchConfig keyedBuild = .ok checked ∧
      resolveAll keyedFields.reverse "build-linux" branchConfig.params checked = .ok resolved ∧
      resolved.getPath "priority" = some (.str "high") := by
  obtain ⟨checked, validated, h⟩ := exists_ok (x := Stage.checkShape shape branchConfig keyedBuild)
    (p := fun checked => (resolveAll keyedFields "build-linux" branchConfig.params checked).toOption.any
      fun resolved : Job => decide (resolved.getPath "priority" = some (Json.str "high")))
    (by decide +kernel)
  obtain ⟨resolved, ran, high⟩ := exists_ok h
  have reversed := resolveAll_any_order validated (List.reverse_perm keyedFields) "build-linux"
    branchConfig.params resolved
  exact ⟨checked, resolved, validated, reversed.mpr ran, of_decide_eq_true high⟩

/-- A description that does not pass the check: what expires is keyed by a field beside it. -/
def selfKeyed : Job := ⟨[
  ("priority", keyedBy "level" [("3", .str "high")]),
  ("expires-after", keyedBy "priority" [("high", .str "1 year"), ("default", .str "1 day")])]⟩

theorem resolveAll_order_matters :
    (resolveAll ["priority", "expires-after"] "" [("level", .str "3")] selfKeyed).map (·.getPath "expires-after") =
        .ok (some (.str "1 year")) ∧
      (resolveAll ["expires-after", "priority"] "" [("level", .str "3")] selfKeyed).map
        (·.getPath "expires-after") = .ok (some (.str "1 day")) :=
  ⟨ok_of_toOption (by decide +kernel), ok_of_toOption (by decide +kernel)⟩

end TaskDescription

end TaskPlan
