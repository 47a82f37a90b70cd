import TaskPlan.Pipeline.Stage
import TaskPlan.Proofs.KeyedBy.Resolve
import TaskPlan.Proofs.Shape.Places

/-!
# Resolved descriptions

The keyed-by fields of a task description stand where its shape allows keyed-by mappings.
A checked description in which they are resolved conforms to the shape with the inner shapes
in the place of the keyed-by ones, and the fields that were keyed have plain values
(`Resolved`).
-/

namespace TaskPlan

namespace TaskDescription

theorem shape_regular : shape.regular = true := by cbv

/-- Every resolved field is keyed in the shape. -/
theorem keyedFields_keyed : shape.keyedAtEach (keyedFields.map segments) = true := by cbv

/-- Every keyed-by shape is that of a resolved field. -/
theorem plainAtEach_keyedFields : shape.plainAtEach (keyedFields.map segments) = shape.plain := by cbv

theorem settled_of_checkShape {config : StageConfig} {job checked : Job}
    (validated : Stage.checkShape shape config job = .ok checked) : shape.Settled checked.value := by
  obtain ⟨result, accepted, same⟩ := bind_ok_iff.mp validated
  have settled := Shape.settled_of_completes shape shape_regular _ _ (Shape.validate_ok_iff.mp accepted)
  obtain ⟨entries, rfl, -⟩ := Shape.settled_record.mp settled
  cases same
  exact settled

theorem settled_of_resolved [Regex.Engine] {config : StageConfig} {context : String} {job checked resolved : Job}
    (validated : Stage.checkShape shape config job = .ok checked)
    (ran : KeyedBy.resolveAll keyedFields context config.params checked = .ok resolved) :
    shape.plain.Settled resolved.value := by
  have settled := KeyedBy.settled_resolveAll keyedFields_keyed (settled_of_checkShape validated) ran
  rwa [plainAtEach_keyedFields] at settled

/-- The description conforms without keyed-by mappings; the fields that may be keyed have plain
values where they are there. -/
structure Resolved (job : Job) : Prop where
  conforms : ∀ context, shape.plain.validate job.value context = .ok job.value
  maxRunTime : ∀ value, job.getPath "worker.max-run-time" = some value → ∃ n fits, value = .num (.int n fits)
  env : ∀ value, job.getPath "worker.env" = some value → ∃ entries, value = .obj entries
  runOnProjects : ∀ value, job.getPath "run-on-projects" = some value → ∃ texts, value = .ofStrings texts
  priority : ∀ value, job.getPath "priority" = some value → ∃ text ∈ priorities, value = .str text
  expiresAfter : ∀ value, job.getPath "expires-after" = some value → ∃ text, value = .str text
  deadlineAfter : ∀ value, job.getPath "deadline-after" = some value → ∃ text, value = .str text

theorem exists_ofStrings {items : List Json} (texts : ∀ item ∈ items, Shape.str.Settled item) :
    ∃ strings, Json.arr items = .ofStrings strings := by
  induction items with
  | nil => exact ⟨[], rfl⟩
  | cons item rest ih =>
    obtain ⟨here, later⟩ := List.forall_mem_cons.mp texts
    obtain ⟨text, rfl⟩ := Shape.exists_of_settled_str here
    obtain ⟨strings, same⟩ := ih later
    rw [Json.ofStrings, Json.arr.injEq] at same
    exact ⟨text :: strings, by rw [same, Json.ofStrings, List.map_cons]⟩

/-- The shape of what stands at a place of a resolved description. -/
theorem settled_at {job : Job} (settled : shape.plain.Settled job.value) {place : String} (within : Shape)
    (only : ∀ inner ∈ shape.plain.underPath (segments place), inner = within) {value : Json}
    (found : job.getPath place = some value) : within.Settled value := by
  obtain ⟨inner, member, accepted⟩ := Shape.settled_getAt (segments_ne_nil place) settled found
  rwa [only inner member] at accepted

theorem resolved_of_settled {job : Job} (settled : shape.plain.Settled job.value) : Resolved job where
  conforms context := Shape.validate_ok_iff.mpr settled
  maxRunTime value found := by
    have places : shape.plain.underPath (segments "worker.max-run-time") = [.int, .int] := by cbv
    exact Shape.exists_of_settled_int (settled_at settled .int (by simp [places]) found)
  env value found := by
    have places : shape.plain.underPath (segments "worker.env") = [.map .any, .map .any] := by cbv
    have mapping := settled_at settled (.map .any) (by simp [places]) found
    obtain ⟨entries, same, -⟩ := Shape.settled_map.mp mapping
    exact ⟨entries, same⟩
  runOnProjects value found := by
    have places : shape.plain.underPath (segments "run-on-projects") = [.list .str] := by cbv
    have list := settled_at settled (.list .str) (by simp [places]) found
    obtain ⟨items, rfl, texts⟩ := Shape.settled_list.mp list
    exact exists_ofStrings texts
  priority value found := by
    have places : shape.plain.underPath (segments "priority") = [.enumeration priorities] := by cbv
    exact Shape.exists_of_settled_enumeration (settled_at settled _ (by simp [places]) found)
  expiresAfter value found := by
    have places : shape.plain.underPath (segments "expires-after") = [.str] := by cbv
    exact Shape.exists_of_settled_str (settled_at settled .str (by simp [places]) found)
  deadlineAfter value found := by
    have places : shape.plain.underPath (segments "deadline-after") = [.str] := by cbv
    exact Shape.exists_of_settled_str (settled_at settled .str (by simp [places]) found)

end TaskDescription

end TaskPlan
