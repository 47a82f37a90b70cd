import TaskPlan.Proofs.Job.Paths
import TaskPlan.Proofs.KeyedBy.Rules
import TaskPlan.Proofs.Shape.Settled

/-!
# Shapes of evaluated values

A value that its shape accepts is keyed at most where the shape says so. Evaluating it at
such a place leads to a value of the shape with the inner shape in that place
(`settled_plainAt`), for one field of a job after the other (`settled_resolveAll`).
-/

namespace TaskPlan

namespace KeyedBy

variable [Regex.Engine]

variable {setting : Setting} {value result : Json}

theorem evaluate_of_unkeyed (unkeyed : parts? value = none) : evaluate setting value = .ok value := by
  refine evaluate_plain ?_
  rintro ⟨name, alternatives, rfl⟩
  have marked : Text.after? marker (marker ++ name) = some name := Text.after?_eq_some.mpr rfl
  simp [keyedBy, parts?, marked] at unkeyed

/-- An evaluation goes on with one of the alternatives, if it does not fail. -/
theorem evaluate_keyed {key name : String} {alternatives : Fields}
    (marked : Text.after? marker key = some name)
    (evaluated : evaluate setting (.obj [(key, .obj alternatives)]) = .ok result) :
    ∃ missing chosen, evaluateUnder setting missing chosen alternatives = .ok result := by
  rw [evaluate, marked] at evaluated
  simp only at evaluated
  split at evaluated
  · cases evaluated
  · cases evaluated
  · exact ⟨_, _, evaluated⟩

section Alternatives

variable {discriminants : List String} {inner : Shape}

theorem settled_evaluateUnder {entries checked : Fields}
    (each : Shape.Entrywise (fun _ checked => ∀ result, evaluate setting checked = .ok result →
      inner.Settled result) entries checked) {missing : Error} {chosen : String}
    (evaluated : evaluateUnder setting missing chosen checked = .ok result) : inner.Settled result := by
  induction each generalizing missing with
  | nil =>
    rw [evaluateUnder] at evaluated
    cases evaluated
  | cons here _ ih =>
    rw [evaluateUnder] at evaluated
    split at evaluated
    · exact here.2 result evaluated
    · exact ih evaluated

/-- Whatever alternatives are chosen, the evaluated value is one that the inner shape accepts. -/
theorem settled_evaluate (stiff : inner.rigid = true) {value checked result : Json}
    (gives : Shape.KeyedGives discriminants inner.check value checked)
    (evaluated : evaluate setting checked = .ok result) : inner.Settled result := by
  refine gives.elim (motive := fun _ checked => ∀ result, evaluate setting checked = .ok result →
    inner.Settled result) ?_ ?_ result evaluated
  · intro value checked unkeyed gives result evaluated
    have same := Shape.eq_of_rigid inner stiff _ _ gives
    subst same
    cases (evaluate_of_unkeyed unkeyed).symm.trans evaluated
    exact gives
  · intro name _ key entries checked marked each result evaluated
    obtain ⟨missing, chosen, evaluated⟩ := evaluate_keyed marked evaluated
    exact settled_evaluateUnder each evaluated

end Alternatives

/-! ### Evaluation at a place -/

/-- The value with what is at the end of a path evaluated, or the value itself if there is
nothing. -/
inductive EvaluatedAt (setting : Setting) : List String → (value result : Json) → Prop where
  | here {value result : Json} (evaluated : evaluate setting value = .ok result) :
      EvaluatedAt setting [] value result
  | inside {key : String} {path : List String} {entries : Fields} {value result : Json}
      (found : entries.get? key = some value) (deeper : EvaluatedAt setting path value result) :
      EvaluatedAt setting (key :: path) (.obj entries) (.obj (entries.insert key result))
  | absent {key : String} {path : List String} {entries : Fields}
      (absent : entries.get? key = none) : EvaluatedAt setting (key :: path) (.obj entries) (.obj entries)
  | scalar {key : String} {path : List String} {value : Json} (scalar : value.obj? = none) :
      EvaluatedAt setting (key :: path) value value

theorem evaluatedAt_of_none {path : List String} (place : path ≠ []) {entries : Fields}
    (nothing : entries.getAt path = none) : EvaluatedAt setting path (.obj entries) (.obj entries) := by
  induction path generalizing entries with
  | nil => exact absurd rfl place
  | cons key rest ih =>
    cases found : entries.get? key with
    | none => exact .absent found
    | some value =>
      cases rest with
      | nil =>
        rw [Fields.getAt, found] at nothing
        cases nothing
      | cons next rest =>
        have deeper : EvaluatedAt setting (next :: rest) value value := by
          cases inner : value.obj? with
          | none => exact .scalar inner
          | some entries =>
            rw [Fields.getAt_cons_cons, found, Option.bind_some, inner, Option.bind_some] at nothing
            cases value <;> cases inner
            exact ih (by simp) nothing
        have unchanged : EvaluatedAt setting (key :: next :: rest) (.obj entries)
            (.obj (entries.insert key value)) := .inside found deeper
        rwa [Fields.insert_get? found] at unchanged

theorem evaluatedAt_of_some {path : List String} {entries : Fields}
    (found : entries.getAt path = some value) (evaluated : evaluate setting value = .ok result) :
    ∃ updated, entries.setAt path result = some updated ∧
      EvaluatedAt setting path (.obj entries) (.obj updated) := by
  induction path generalizing entries with
  | nil => cases found
  | cons key rest ih =>
    cases rest with
    | nil => exact ⟨_, rfl, .inside found (.here evaluated)⟩
    | cons next rest =>
      obtain ⟨inner, here, found⟩ := Fields.getAt_inside_iff.mp found
      obtain ⟨updated, set, deeper⟩ := ih found
      exact ⟨_, Fields.setAt_inside here set, .inside here deeper⟩

/-- A field of a job is evaluated at its path. -/
theorem resolve_evaluatedAt {job resolved : Job} {field context : String} {params : Fields}
    {found : Option Json} (ran : resolve job field context params = .ok (found, resolved)) :
    EvaluatedAt (jobSetting job field context params) (segments field) job.value resolved.value := by
  rw [resolve] at ran
  split at ran
  · rename_i nothing
    cases ran
    exact evaluatedAt_of_none (segments_ne_nil field) nothing
  · rename_i value there
    obtain ⟨result, evaluated, same⟩ := map_ok_iff.mp ran
    obtain ⟨updated, set, there⟩ := evaluatedAt_of_some there evaluated
    rw [Job.setPath, set] at same
    cases same
    exact there

end KeyedBy

/-! ### Shapes with places that are not keyed -/

namespace Shape

mutual

/-- The shape with the inner shape in the place of every keyed-by one. -/
def plain : Shape → Shape
  | .oneOf alternatives => .oneOf (plainAll alternatives)
  | .list inner => .list (plain inner)
  | .map inner => .map (plain inner)
  | .record fields isOpen => .record (plainFields fields) isOpen
  | .keyedBy _ inner => plain inner
  | shape => shape
termination_by structural shape => shape

def plainAll : List Shape → List Shape
  | [] => []
  | shape :: rest => plain shape :: plainAll rest
termination_by structural shapes => shapes

def plainFields : List Field → List Field
  | [] => []
  | .mk name shape presence :: rest => .mk name (plain shape) presence :: plainFields rest
termination_by structural fields => fields

end

mutual

/-- The shape with the inner shape in the place of the keyed-by one at the end of a path. -/
def plainAt : Shape → List String → Shape
  | .keyedBy _ inner, [] => inner
  | .record fields isOpen, key :: path => .record (plainFieldsAt fields key path) isOpen
  | .oneOf alternatives, path => .oneOf (plainAllAt alternatives path)
  | shape, _ => shape
termination_by structural shape => shape

def plainAllAt : List Shape → List String → List Shape
  | [], _ => []
  | shape :: rest, path => plainAt shape path :: plainAllAt rest path
termination_by structural shapes => shapes

def plainFieldsAt : List Field → String → List String → List Field
  | [], _, _ => []
  | .mk name shape presence :: rest, key, path =>
    .mk name (if name = key then plainAt shape path else shape) presence :: plainFieldsAt rest key path
termination_by structural fields => fields

end

mutual

/-- The path leads to a keyed-by shape with an inner one that changes nothing, in every
alternative that has it, and the alternatives exclude each other with the inner shape too. -/
def keyedAt : Shape → List String → Bool
  | .keyedBy _ inner, [] => rigid inner
  | .record fields _, key :: path => keyedFieldsAt fields key path
  | .oneOf alternatives, path =>
    keyedAllAt alternatives path && apart (plainAllAt alternatives path) &&
      regularAll (plainAllAt alternatives path)
  | _, _ => false
termination_by structural shape => shape

def keyedAllAt : List Shape → List String → Bool
  | [], _ => true
  | shape :: rest, path => keyedAt shape path && keyedAllAt rest path
termination_by structural shapes => shapes

def keyedFieldsAt : List Field → String → List String → Bool
  | [], _, _ => true
  | .mk name shape _ :: rest, key, path =>
    (name != key || keyedAt shape path) && keyedFieldsAt rest key path
termination_by structural fields => fields

end

/-- The paths lead to keyed-by shapes one after the other. -/
def keyedAtEach : Shape → (paths : List (List String)) → Bool
  | _, [] => true
  | shape, path :: rest => keyedAt shape path && keyedAtEach (plainAt shape path) rest

def plainAtEach (shape : Shape) (paths : List (List String)) : Shape := paths.foldl plainAt shape

theorem plainFieldsAt_eq_map (fields : List Field) (key : String) (path : List String) :
    plainFieldsAt fields key path = fields.map fun field =>
      .mk field.name (if field.name = key then plainAt field.shape path else field.shape) field.presence := by
  induction fields with
  | nil => rfl
  | cons field rest ih =>
    cases field
    rw [plainFieldsAt, ih]
    rfl

theorem find?_plainFieldsAt (fields : List Field) (key : String) (path : List String) (name : String) :
    (plainFieldsAt fields key path).find? (fun field => field.name == name) =
      (fields.find? fun field => field.name == name).map fun field =>
        .mk field.name (if field.name = key then plainAt field.shape path else field.shape) field.presence := by
  rw [plainFieldsAt_eq_map, List.find?_map]
  rfl

theorem mem_plainAllAt {shapes : List Shape} {path : List String} {shape : Shape}
    (member : shape ∈ shapes) : plainAt shape path ∈ plainAllAt shapes path := by
  induction shapes with
  | nil => cases member
  | cons first rest ih =>
    rw [plainAllAt]
    rcases List.mem_cons.mp member with rfl | member
    · exact List.mem_cons_self
    · exact List.mem_cons_of_mem _ (ih member)

section Record

variable {fields : List Field} {isOpen : Bool} {key : String} {path : List String}

theorem fits_plainFieldsAt_other {other : String} {value : Json} (different : key ≠ other)
    (fits : Fits fields isOpen other value) : Fits (plainFieldsAt fields key path) isOpen other value := by
  unfold Fits at fits ⊢
  rw [find?_plainFieldsAt]
  cases found : fields.find? fun field => field.name == other with
  | none =>
    rw [found] at fits
    exact fits
  | some field =>
    rw [found] at fits
    have named : field.name ≠ key := by
      rintro rfl
      exact different (by simpa using List.find?_some found)
    simp only [Option.map_some, if_neg named]
    exact fits

theorem fits_plainFieldsAt {value result : Json} (fits : Fits fields isOpen key value)
    (deeper : ∀ field ∈ fields, field.name = key → Settled field.shape value →
      Settled (plainAt field.shape path) result) :
    Fits (plainFieldsAt fields key path) isOpen key result := by
  unfold Fits at fits ⊢
  rw [find?_plainFieldsAt]
  cases found : fields.find? fun field => field.name == key with
  | none =>
    rw [found] at fits
    exact fits
  | some field =>
    rw [found] at fits
    have named : field.name = key := by simpa using List.find?_some found
    simp only [Option.map_some, if_pos named]
    exact deeper field (List.mem_of_find?_eq_some found) named fits

theorem settled_record_plainAt [Regex.Engine] {setting : KeyedBy.Setting} {value result : Json}
    (deeper : ∀ field ∈ fields, field.name = key → ∀ value result, Settled field.shape value →
      KeyedBy.EvaluatedAt setting path value result → Settled (plainAt field.shape path) result)
    (settled : Settled (.record fields isOpen) value)
    (evaluated : KeyedBy.EvaluatedAt setting (key :: path) value result) :
    Settled (.record (plainFieldsAt fields key path) isOpen) result := by
  obtain ⟨entries, rfl, distinct, fits, present⟩ := settled_record.mp settled
  have declared {entries : Fields}
      (present : ∀ field ∈ fields, field.presence ≠ .optional → entries.contains field.name = true) :
      ∀ field ∈ plainFieldsAt fields key path, field.presence ≠ .optional →
        entries.contains field.name = true := by
    intro field member needed
    rw [plainFieldsAt_eq_map] at member
    obtain ⟨original, inside, rfl⟩ := List.mem_map.mp member
    exact present original inside needed
  cases evaluated with
  | @inside _ _ _ value result found evaluated =>
    refine settled_record.mpr ⟨_, rfl, Fields.nodup_insert distinct, fun other value' found' => ?_,
      declared fun field member needed => ?_⟩
    · rw [Fields.get?_insert] at found'
      split at found'
      · rename_i same
        cases same
        cases found'
        exact fits_plainFieldsAt (fits key value found) fun field member named settled =>
          deeper field member named _ _ settled evaluated
      · rename_i different
        exact fits_plainFieldsAt_other different (fits other value' found')
    · rw [Fields.contains_iff_mem_keys, Fields.mem_keys_insert, ← Fields.contains_iff_mem_keys]
      exact .inr (present field member needed)
  | absent nothing =>
    refine settled_record.mpr ⟨entries, rfl, distinct, fun other value found => ?_, declared present⟩
    have different : key ≠ other := by
      rintro rfl
      rw [nothing] at found
      cases found
    exact fits_plainFieldsAt_other different (fits other value found)
  | scalar scalar => cases scalar

end Record

mutual

/-- Evaluation at a keyed-by place leads to a value of the shape that is plain there. -/
theorem settled_plainAt [Regex.Engine] {setting : KeyedBy.Setting} : ∀ (shape : Shape) (path : List String),
    keyedAt shape path = true → ∀ value result, Settled shape value →
      KeyedBy.EvaluatedAt setting path value result → Settled (plainAt shape path) result
  | .keyedBy discriminants inner, [], keyed, value, result, settled, evaluated => by
    rw [keyedAt] at keyed
    cases evaluated with
    | here evaluated =>
      rw [plainAt]
      exact KeyedBy.settled_evaluate keyed (completes_keyedBy.mp settled) evaluated
  | .record fields isOpen, key :: path, keyed, value, result, settled, evaluated => by
    rw [keyedAt] at keyed
    rw [plainAt]
    exact settled_record_plainAt (settled_plainFieldsAt fields key path keyed) settled evaluated
  | .oneOf alternatives, path, keyed, value, result, settled, evaluated => by
    rw [keyedAt, Bool.and_eq_true, Bool.and_eq_true] at keyed
    rw [plainAt]
    obtain ⟨before, shape, after, same, settled, -⟩ := completes_oneOf.mp settled
    have member : shape ∈ alternatives := by simp [same]
    exact completes_oneOf_of_mem keyed.1.2 (regularAll_iff.mp keyed.2) (mem_plainAllAt member)
      (settled_plainAllAt alternatives path keyed.1.1 shape member value result settled evaluated)
  | .keyedBy _ _, _ :: _, keyed, _, _, _, _ => by simp [keyedAt] at keyed
  | .record _ _, [], keyed, _, _, _, _ => by simp [keyedAt] at keyed
  | .any, _, keyed, _, _, _, _ => by simp [keyedAt] at keyed
  | .null, _, keyed, _, _, _, _ => by simp [keyedAt] at keyed
  | .bool, _, keyed, _, _, _, _ => by simp [keyedAt] at keyed
  | .int, _, keyed, _, _, _, _ => by simp [keyedAt] at keyed
  | .number, _, keyed, _, _, _, _ => by simp [keyedAt] at keyed
  | .str, _, keyed, _, _, _, _ => by simp [keyedAt] at keyed
  | .literal _, _, keyed, _, _, _, _ => by simp [keyedAt] at keyed
  | .list _, _, keyed, _, _, _, _ => by simp [keyedAt] at keyed
  | .map _, _, keyed, _, _, _, _ => by simp [keyedAt] at keyed

theorem settled_plainAllAt [Regex.Engine] {setting : KeyedBy.Setting} : ∀ (shapes : List Shape) (path : List String),
    keyedAllAt shapes path = true → ∀ shape ∈ shapes, ∀ value result, Settled shape value →
      KeyedBy.EvaluatedAt setting path value result → Settled (plainAt shape path) result
  | [], _, _ => nofun
  | first :: rest, path, keyed => by
    rw [keyedAllAt, Bool.and_eq_true] at keyed
    exact List.forall_mem_cons.mpr
      ⟨settled_plainAt first path keyed.1, settled_plainAllAt rest path keyed.2⟩

theorem settled_plainFieldsAt [Regex.Engine] {setting : KeyedBy.Setting} :
    ∀ (fields : List Field) (key : String) (path : List String), keyedFieldsAt fields key path = true →
      ∀ field ∈ fields, field.name = key → ∀ value result, Settled field.shape value →
        KeyedBy.EvaluatedAt setting path value result → Settled (plainAt field.shape path) result
  | [], _, _, _ => nofun
  | .mk name shape _ :: rest, key, path, keyed => by
    rw [keyedFieldsAt, Bool.and_eq_true, Bool.or_eq_true, bne_iff_ne] at keyed
    refine List.forall_mem_cons.mpr ⟨fun named => ?_, settled_plainFieldsAt rest key path keyed.2⟩
    exact settled_plainAt shape path (keyed.1.resolve_left fun other => other named)

end

end Shape

/-- Fields of a job that are keyed by their shape are evaluated one after the other. -/
theorem KeyedBy.settled_resolveAll [Regex.Engine] {fields : List String} {context : String} {params : Fields} :
    ∀ {shape : Shape} {job resolved : Job}, shape.keyedAtEach (fields.map segments) = true →
      shape.Settled job.value → resolveAll fields context params job = .ok resolved →
      (shape.plainAtEach (fields.map segments)).Settled resolved.value := by
  induction fields with
  | nil =>
    intro shape job resolved _ settled ran
    cases ran
    exact settled
  | cons field rest ih =>
    intro shape job resolved keyed settled ran
    rw [List.map_cons, Shape.keyedAtEach, Bool.and_eq_true] at keyed
    obtain ⟨next, here, later⟩ := bind_ok_iff.mp ran
    obtain ⟨⟨found, _⟩, ran, rfl⟩ := map_ok_iff.mp here
    have evaluated := resolve_evaluatedAt ran
    exact ih keyed.2 (Shape.settled_plainAt shape _ keyed.1 _ _ settled evaluated) later

end TaskPlan
