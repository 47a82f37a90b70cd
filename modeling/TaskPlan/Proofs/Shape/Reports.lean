import TaskPlan.Proofs.Shape.Closest

/-!
# Reports of violations

What a shape reports of a list or a mapping is what it reports of the items and entries one
after the other (`report_list`, `report_map`, `report_keyed`), and for a record what is missed
comes last (`report_record`). So if a check comes to a part of the value (`Reaches`), the report
of that part stands between those of what is checked before and after it. For alternatives that
all refuse the part this is the report of the closest record, or a single violation, and nothing
of the other alternatives (`report_between`).
-/

namespace TaskPlan

namespace Shape

/-! ### Reports of containers -/

def itemReports (shape : Shape) (path : String) : (index : Nat) → List Json → List Violation
  | _, [] => []
  | index, item :: rest =>
    shape.report (joinPath path (toString index)) item ++ itemReports shape path (index + 1) rest

def entryReports (shape : Shape) (path : String) (entries : Fields) : List Violation :=
  entries.flatMap fun entry => shape.report (joinPath path entry.1) entry.2

/-- The report of one entry of a record. -/
def fieldReport (fields : List Field) (isOpen : Bool) (path : String) (entry : String × Json) :
    List Violation :=
  match fields.find? (fun field => field.name == entry.1) with
  | some field => field.shape.report (joinPath path entry.1) entry.2
  | none => if isOpen then [] else [⟨joinPath path entry.1, "extra keys not allowed"⟩]

def fieldReports (fields : List Field) (isOpen : Bool) (path : String) (entries : Fields) : List Violation :=
  entries.flatMap (fieldReport fields isOpen path)

/-- The report of a declared field that is required and absent. -/
def missingReport (path : String) (entries : Fields) (field : Field) : List Violation :=
  if entries.contains field.name = false ∧ field.presence = .required then
    [⟨joinPath path field.name, "required key not provided"⟩]
  else []

def missingReports (fields : List Field) (path : String) (entries : Fields) : List Violation :=
  fields.flatMap (missingReport path entries)

variable {shape inner : Shape} {path : String} {value : Json} {entries : Fields} {fields : List Field}
  {isOpen : Bool} {discriminants : List String}

theorem itemReports_append (shape : Shape) (path : String) (index : Nat) (front back : List Json) :
    itemReports shape path index (front ++ back) =
      itemReports shape path index front ++ itemReports shape path (index + front.length) back := by
  induction front generalizing index with
  | nil => rfl
  | cons item front ih =>
    rw [List.cons_append, itemReports, itemReports, ih, List.length_cons, List.append_assoc]
    congr 3
    omega

theorem report_list (items : List Json) :
    report (.list inner) path (.arr items) = itemReports inner path 0 items := by
  have each (index : Nat) : (checkItems (fun path value => check inner path value) path index items).flatMap
      Checked.violations = itemReports inner path index items := by
    induction items generalizing index with
    | nil => rfl
    | cons item rest ih => rw [checkItems, List.flatMap_cons, ih, itemReports, report]
  rw [report, check]
  exact each 0

theorem report_map (entries : Fields) :
    report (.map inner) path (.obj entries) = entryReports inner path entries := by
  rw [report, check, checkMap, gather, checkEntries, List.flatMap_map]
  rfl

theorem report_plain (unkeyed : KeyedBy.parts? value = none) :
    report (.keyedBy discriminants inner) path value = report inner path value := by
  rw [report, check, checkKeyed_of_unkeyed unkeyed, report]

theorem report_keyed {name : String} (allowed : name ∈ discriminants) (alternatives : Fields) :
    report (.keyedBy discriminants inner) path (.obj [(KeyedBy.marker ++ name, .obj alternatives)]) =
      entryReports (.keyedBy discriminants inner) (joinPath path (KeyedBy.marker ++ name)) alternatives := by
  have marked : Text.after? KeyedBy.marker (KeyedBy.marker ++ name) = some name := Text.after?_eq_some.mpr rfl
  have each (place : String) :
      (checkAlternatives discriminants (fun path value => check inner path value) place alternatives).flatMap
        (fun entry => entry.2.violations) = entryReports (.keyedBy discriminants inner) place alternatives := by
    induction alternatives with
    | nil => rfl
    | cons entry rest ih =>
      rw [checkAlternatives, List.flatMap_cons, ih, entryReports, entryReports, List.flatMap_cons, report, check]
  rw [report, check, checkKeyed, marked]
  simp only [List.contains_iff_mem, allowed, if_true, checkContent, gather]
  exact each _

theorem checkEntry_report (done : Fields × List Violation) (entry : String × Json) :
    (checkEntry (fieldChecks fields) isOpen path done entry).2 =
      done.2 ++ fieldReport fields isOpen path entry := by
  rw [checkEntry, find?_fieldChecks, fieldReport]
  cases fields.find? fun field => field.name == entry.1 with
  | some field => simp only [Option.map_some, fieldCheck_check, report]
  | none => cases isOpen <;> simp

theorem fillField_report (done : Fields × List Violation) (field : Field) :
    (fillField entries path done (fieldCheck field)).2 = done.2 ++ missingReport path entries field := by
  rw [fillField, missingReport, fieldCheck_name, fieldCheck_presence]
  cases entries.contains field.name with
  | true => simp
  | false => cases field.presence <;> simp

/-- A fold that only appends to the violations found so far. -/
theorem foldl_report {item : Type} {step : Fields × List Violation → item → Fields × List Violation}
    {reported : item → List Violation} (each : ∀ done item, (step done item).2 = done.2 ++ reported item)
    (items : List item) (done : Fields × List Violation) :
    (items.foldl step done).2 = done.2 ++ items.flatMap reported := by
  induction items generalizing done with
  | nil => simp
  | cons item rest ih => rw [List.foldl_cons, ih, each, List.flatMap_cons, List.append_assoc]

theorem report_record (entries : Fields) :
    report (.record fields isOpen) path (.obj entries) =
      fieldReports fields isOpen path entries ++ missingReports fields path entries := by
  rw [report, check, checkRecord]
  dsimp only
  rw [fieldChecks_eq_map, List.foldl_map, foldl_report fillField_report, ← fieldChecks_eq_map,
    foldl_report checkEntry_report]
  rfl

/-! ### Parts of a value -/

/-- A check of a value comes to a part of it at `place`, which has to be of the shape `inner`;
with what the check reports before that part and after it. -/
inductive Reaches (inner : Shape) (place : String) (part : Json) :
    Shape → (path : String) → Json → (before after : List Violation) → Prop where
  | whole : Reaches inner place part inner place part [] []
  | item {shape : Shape} {path : String} {front back : List Json} {item : Json}
      {before after : List Violation}
      (reaches : Reaches inner place part shape (joinPath path (toString front.length)) item before after) :
    Reaches inner place part (.list shape) path (.arr (front ++ item :: back))
      (itemReports shape path 0 front ++ before) (after ++ itemReports shape path (front.length + 1) back)
  | entry {shape : Shape} {path key : String} {front back : Fields} {value : Json}
      {before after : List Violation}
      (reaches : Reaches inner place part shape (joinPath path key) value before after) :
    Reaches inner place part (.map shape) path (.obj (front ++ (key, value) :: back))
      (entryReports shape path front ++ before) (after ++ entryReports shape path back)
  | field {fields : List Field} {isOpen : Bool} {path key : String} {front back : Fields} {value : Json}
      {field : Field} {before after : List Violation}
      (declared : fields.find? (fun field => field.name == key) = some field)
      (reaches : Reaches inner place part field.shape (joinPath path key) value before after) :
    Reaches inner place part (.record fields isOpen) path (.obj (front ++ (key, value) :: back))
      (fieldReports fields isOpen path front ++ before)
      (after ++ fieldReports fields isOpen path back ++
        missingReports fields path (front ++ (key, value) :: back))
  | plain {discriminants : List String} {shape : Shape} {path : String} {value : Json}
      {before after : List Violation} (unkeyed : KeyedBy.parts? value = none)
      (reaches : Reaches inner place part shape path value before after) :
    Reaches inner place part (.keyedBy discriminants shape) path value before after
  | keyed {discriminants : List String} {shape : Shape} {path name key : String} {front back : Fields}
      {value : Json} {before after : List Violation} (allowed : name ∈ discriminants)
      (reaches : Reaches inner place part (.keyedBy discriminants shape)
        (joinPath (joinPath path (KeyedBy.marker ++ name)) key) value before after) :
    Reaches inner place part (.keyedBy discriminants shape) path
      (.obj [(KeyedBy.marker ++ name, .obj (front ++ (key, value) :: back))])
      (entryReports (.keyedBy discriminants shape) (joinPath path (KeyedBy.marker ++ name)) front ++ before)
      (after ++ entryReports (.keyedBy discriminants shape) (joinPath path (KeyedBy.marker ++ name)) back)
  | chosen {alternatives : List Shape} {closest : Shape} {path : String} {entries : Fields}
      {before after : List Violation} (refused : ∀ shape ∈ alternatives, ¬ Conforms shape (.obj entries))
      (nearest : Closest path entries alternatives closest)
      (reaches : Reaches inner place part closest path (.obj entries) before after) :
    Reaches inner place part (.oneOf alternatives) path (.obj entries) before after

theorem entryReports_split (shape : Shape) (path : String) (front back : Fields) (key : String)
    (value : Json) :
    entryReports shape path (front ++ (key, value) :: back) =
      entryReports shape path front ++ shape.report (joinPath path key) value ++ entryReports shape path back := by
  simp [entryReports]

theorem Reaches.report {place : String} {part : Json} {before after : List Violation}
    (reaches : Reaches inner place part shape path value before after) :
    shape.report path value = before ++ inner.report place part ++ after := by
  induction reaches with
  | whole => simp
  | @item shape path front back item before after _ ih =>
    rw [report_list, itemReports_append, itemReports, Nat.zero_add, ih]
    simp only [List.append_assoc]
  | entry _ ih =>
    rw [report_map, entryReports_split, ih]
    simp only [List.append_assoc]
  | @field fields isOpen path key front back value field before after declared _ ih =>
    have here : fieldReport fields isOpen path (key, value) = before ++ inner.report place part ++ after := by
      rw [fieldReport, declared, ← ih]
    rw [report_record, fieldReports, List.flatMap_append, List.flatMap_cons, here]
    simp only [fieldReports, List.append_assoc]
  | plain unkeyed _ ih => rw [report_plain unkeyed, ih]
  | keyed allowed _ ih =>
    rw [report_keyed allowed, entryReports_split, ih]
    simp only [List.append_assoc]
  | chosen refused nearest _ ih => rw [report_closest refused nearest, ih]

/-- A shape reports nothing of a value exactly if it accepts it. -/
theorem report_eq_nil_iff : shape.report path value = [] ↔ Conforms shape value := by
  rw [conforms_iff, report, ← List.isEmpty_iff]
  constructor
  · intro clean
    exact ⟨_, check_ok_iff.mp (Checked.fits_iff.mp clean)⟩
  · rintro ⟨result, completes⟩
    rw [check_ok_iff.mpr completes]
    rfl

theorem validate_error {context : String} (found : shape.report "" value ≠ []) :
    validate shape value context = .error (.schema context (shape.report "" value)) := by
  have unfit : (check shape "" value).fits = false := List.isEmpty_eq_false_iff.mpr found
  simp only [validate, unfit, Bool.false_eq_true, if_false, report]

/-- What is reported of a part that all alternatives refuse: of a mapping the report of the
closest record, and else a single violation. It stands between the reports of what is checked
before the part and after it, wherever the alternatives are in a shape. -/
theorem report_between {alternatives : List Shape} {place : String} {part : Json}
    (refused : ∀ shape ∈ alternatives, ¬ Conforms shape part) :
    (∀ entries, part = .obj entries → (∃ shape ∈ alternatives, shape.isRecord = true) →
      ∃ closest, Closest place entries alternatives closest ∧
        report (.oneOf alternatives) place part = report closest place part) ∧
    ((∀ entries, part ≠ .obj entries) ∨ (∀ shape ∈ alternatives, shape.isRecord = false) →
      report (.oneOf alternatives) place part =
        [⟨place, "value " ++ part.text ++ " does not match " ++ describe (.oneOf alternatives)⟩]) ∧
    ∀ shape path value before after,
      Reaches (.oneOf alternatives) place part shape path value before after →
        shape.report path value = before ++ report (.oneOf alternatives) place part ++ after ∧
        ∀ context, path = "" → validate shape value context =
          .error (.schema context (before ++ report (.oneOf alternatives) place part ++ after)) := by
  refine ⟨?_, report_unranked refused, ?_⟩
  · rintro entries rfl record
    obtain ⟨closest, chosen⟩ := exists_closest place entries record
    exact ⟨closest, chosen, report_closest refused chosen⟩
  · intro shape path value before after reaches
    have whole := reaches.report
    refine ⟨whole, ?_⟩
    rintro context rfl
    have found : report (.oneOf alternatives) place part ≠ [] := by
      intro clean
      cases report_eq_nil_iff.mp clean with
      | oneOf member conforms => exact refused _ member conforms
    rw [← whole]
    refine validate_error ?_
    rw [whole]
    simp [found]

/-- A worker that is run in an image, or by a script. -/
def workerKinds : List Shape :=
  [.record [.required "implementation" (.literal (.str "docker")), .required "image" .str] true,
    .record [.required "implementation" (.literal (.str "script")), .optional "env" (.map .any)] false]

def poolShape : Shape :=
  .record [.required "label" .str, .required "workers" (.list (.oneOf workerKinds))] false

/-- A script with an image, whose environment is no mapping. -/
def imageScript : Json := .obj [("implementation", .str "script"), ("image", .str "debian"), ("env", .bool true)]

def imageScriptPool : Json := .obj [("owner", .str "build"), ("workers", .arr [imageScript])]

/-- The report is that of the script, though only the implementation differs from the other kind. -/
theorem report_between_image_script :
    (∀ shape ∈ workerKinds, ¬ Conforms shape imageScript) ∧
    validate poolShape imageScriptPool "pool" = .error (.schema "pool"
      [⟨"owner", "extra keys not allowed"⟩,
        ⟨"workers.0.image", "extra keys not allowed"⟩,
        ⟨"workers.0.env", "expected mapping of any value, got boolean"⟩,
        ⟨"label", "required key not provided"⟩]) := by
  have refused : ∀ shape ∈ workerKinds, ¬ Conforms shape imageScript := by
    have found : ∀ shape ∈ workerKinds, shape.report "" imageScript ≠ [] := by decide +kernel
    exact fun shape member conforms => found shape member (report_eq_nil_iff.mpr conforms)
  have listed : Reaches (.oneOf workerKinds) "workers.0" imageScript (.list (.oneOf workerKinds)) "workers"
      (.arr ([] ++ imageScript :: [])) _ _ := .item .whole
  have reaches : Reaches (.oneOf workerKinds) "workers.0" imageScript poolShape ""
      (.obj ([("owner", .str "build")] ++ ("workers", .arr [imageScript]) :: [])) _ _ := .field rfl listed
  obtain ⟨-, -, between⟩ := @report_between workerKinds "workers.0" imageScript refused
  obtain ⟨-, fails⟩ := between _ _ _ _ _ reaches
  refine ⟨refused, (fails "pool" rfl).trans ?_⟩
  decide +kernel

end Shape

end TaskPlan
