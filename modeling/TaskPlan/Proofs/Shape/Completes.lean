import TaskPlan.Proofs.Json.Fields
import TaskPlan.Proofs.Shape.Containers

/-!
# What a shape accepts

A shape accepts a value with a result, the value with the defaults of absent fields
(`Completes`). The check finds out at whatever path (`check_ok_iff`), and there is one rule
for each kind of shape. So a value is validated if the shape accepts it (`validate_ok_iff`).
-/

namespace TaskPlan

namespace Shape

def Completes (shape : Shape) : (value result : Json) → Prop := Gives (check shape)

variable {path : String} {value result : Json}

theorem pathFree_of_iff {checker : Checker} {accepts : Json → Json → Prop}
    (rule : ∀ path value result, checker path value = .ok result ↔ accepts value result) :
    PathFree checker := fun path value result accepted other =>
  (rule other value result).mpr ((rule path value result).mp accepted)

theorem completes_of_iff {shape : Shape} {accepts : Prop}
    (rule : ∀ path, check shape path value = .ok result ↔ accepts) :
    Completes shape value result ↔ accepts :=
  ⟨fun completes => (rule "").mp (completes ""), fun accepted path => (rule path).mpr accepted⟩

/-! ### Records -/

/-- The entry is that of a declared field and accepted by its shape, or another one in an
open record. -/
def EntryCompletes (fields : List Field) (isOpen : Bool) (entry result : String × Json) : Prop :=
  result.1 = entry.1 ∧
    match fields.find? (fun field => field.name == entry.1) with
    | some field => Completes field.shape entry.2 result.2
    | none => isOpen = true ∧ result.2 = entry.2

def absentDefaults (fields : List Field) (entries : Fields) : Fields :=
  fields.filterMap fun field =>
    if entries.contains field.name then none
    else match field.presence with
      | .default value => some (field.name, value)
      | _ => none

/-- All entries are accepted and no field is missed. The result has the last of several
entries for a key, and the defaults of absent fields after all entries. -/
def RecordCompletes (fields : List Field) (isOpen : Bool) (value result : Json) : Prop :=
  ∃ entries results : Fields, value = .obj entries ∧
    List.Forall₂ (EntryCompletes fields isOpen) entries results ∧
    (∀ field ∈ fields, field.presence = .required → entries.contains field.name = true) ∧
    result = .obj (Fields.ofList (results ++ absentDefaults fields entries))

@[simp] theorem fieldCheck_name (field : Field) : (fieldCheck field).name = field.name := by
  cases field
  rfl

@[simp] theorem fieldCheck_presence (field : Field) : (fieldCheck field).presence = field.presence := by
  cases field
  rfl

@[simp] theorem fieldCheck_check (field : Field) : (fieldCheck field).check = check field.shape := by
  cases field
  rfl

theorem fieldChecks_eq_map (fields : List Field) : fieldChecks fields = fields.map fieldCheck := by
  induction fields with
  | nil => rfl
  | cons field rest ih => rw [fieldChecks, ih, List.map_cons]

section Record

variable {fields : List Field} {isOpen : Bool} {entries : Fields}

theorem find?_fieldChecks (key : String) :
    (fieldChecks fields).find? (fun field => field.name == key) =
      (fields.find? fun field => field.name == key).map fieldCheck := by
  rw [fieldChecks_eq_map, List.find?_map]
  refine congrArg _ (congrArg (fun p => fields.find? p) (funext fun field => ?_))
  rw [Function.comp_apply, fieldCheck_name]

theorem checkEntry_clean (free : ∀ field ∈ fields, PathFree (check field.shape)) (path : String)
    (done : Fields × List Violation) {entry : String × Json} {next : Fields} :
    checkEntry (fieldChecks fields) isOpen path done entry = (next, []) ↔
      done.2 = [] ∧ ∃ result, EntryCompletes fields isOpen entry result ∧
        next = done.1.insert result.1 result.2 := by
  obtain ⟨key, value⟩ := entry
  rw [checkEntry, find?_fieldChecks]
  simp only [EntryCompletes]
  cases found : fields.find? fun field => field.name == key with
  | some field =>
    have free := free field (List.mem_of_find?_eq_some found)
    simp only [Option.map_some, fieldCheck_check, Prod.mk.injEq, List.append_eq_nil_iff]
    constructor
    · rintro ⟨rfl, clean, accepted⟩
      have accepted := Checked.fits_iff.mp (List.isEmpty_iff.mpr accepted)
      exact ⟨clean, (key, _), ⟨rfl, free.gives.mp accepted⟩, rfl⟩
    · rintro ⟨clean, ⟨_, result⟩, ⟨rfl, accepted⟩, rfl⟩
      rw [accepted]
      exact ⟨rfl, clean, rfl⟩
  | none =>
    simp only [Option.map_none]
    cases isOpen with
    | true =>
      simp only [if_true, Prod.mk.injEq, true_and]
      constructor
      · rintro ⟨rfl, clean⟩
        exact ⟨clean, (key, value), ⟨rfl, rfl⟩, rfl⟩
      · rintro ⟨clean, ⟨_, _⟩, ⟨rfl, rfl⟩, rfl⟩
        exact ⟨rfl, clean⟩
    | false => simp

theorem checkEntries_clean (free : ∀ field ∈ fields, PathFree (check field.shape)) (path : String)
    (done : Fields × List Violation) {out : Fields} :
    entries.foldl (checkEntry (fieldChecks fields) isOpen path) done = (out, []) ↔
      done.2 = [] ∧ ∃ results, List.Forall₂ (EntryCompletes fields isOpen) entries results ∧
        out = done.1.insertAll results := by
  induction entries generalizing done with
  | nil =>
    obtain ⟨fields, violations⟩ := done
    simp [Fields.insertAll, eq_comm, and_comm]
  | cons entry rest ih =>
    rw [List.foldl_cons, ih]
    simp only [List.forall₂_cons_left_iff]
    constructor
    · rintro ⟨clean, results, later, rfl⟩
      obtain ⟨clean, result, here, next⟩ := (checkEntry_clean free path done).mp (Prod.ext rfl clean)
      exact ⟨clean, result :: results, ⟨result, results, here, later, rfl⟩,
        congrArg (Fields.insertAll · results) next⟩
    · rintro ⟨clean, _, ⟨result, results, here, later, rfl⟩, rfl⟩
      have stepped := (checkEntry_clean free path done).mpr ⟨clean, result, here, rfl⟩
      rw [stepped]
      exact ⟨rfl, results, later, rfl⟩

theorem absentDefaults_cons (field : Field) (rest : List Field) :
    absentDefaults (field :: rest) entries =
      absentDefaults [field] entries ++ absentDefaults rest entries := by
  rw [absentDefaults, ← List.singleton_append, List.filterMap_append]
  rfl

theorem fillField_clean (path : String) (done : Fields × List Violation) {field : Field}
    {next : Fields} :
    fillField entries path done (fieldCheck field) = (next, []) ↔
      done.2 = [] ∧ (field.presence = .required → entries.contains field.name = true) ∧
        next = done.1.insertAll (absentDefaults [field] entries) := by
  obtain ⟨fields, violations⟩ := done
  unfold fillField absentDefaults
  by_cases present : entries.contains field.name = true
  · simp [present, Fields.insertAll, and_comm, eq_comm (a := next)]
  · cases needed : field.presence <;>
      simp [present, needed, Fields.insertAll, and_comm, eq_comm (a := next)]

theorem fillFields_clean (path : String) (done : Fields × List Violation) {out : Fields} :
    (fieldChecks fields).foldl (fillField entries path) done = (out, []) ↔
      done.2 = [] ∧
        (∀ field ∈ fields, field.presence = .required → entries.contains field.name = true) ∧
        out = done.1.insertAll (absentDefaults fields entries) := by
  rw [fieldChecks_eq_map, List.foldl_map]
  induction fields generalizing done with
  | nil =>
    obtain ⟨fields, violations⟩ := done
    simp [absentDefaults, Fields.insertAll, and_comm, eq_comm (a := out)]
  | cons field rest ih =>
    rw [List.foldl_cons, ih, List.forall_mem_cons, absentDefaults_cons, Fields.insertAll_append]
    constructor
    · rintro ⟨clean, later, rfl⟩
      obtain ⟨clean, here, next⟩ := (fillField_clean path done).mp (Prod.ext rfl clean)
      exact ⟨clean, ⟨here, later⟩, congrArg (Fields.insertAll · (absentDefaults rest entries)) next⟩
    · rintro ⟨clean, ⟨here, later⟩, rfl⟩
      have stepped := (fillField_clean path done).mpr ⟨clean, here, rfl⟩
      rw [stepped]
      exact ⟨rfl, later, rfl⟩

theorem checkRecord_ok_iff (free : ∀ field ∈ fields, PathFree (check field.shape)) {description : String} :
    checkRecord description (fieldChecks fields) isOpen path value = .ok result ↔
      RecordCompletes fields isOpen value result := by
  unfold checkRecord RecordCompletes
  split
  · rename_i entries
    simp only [Checked.mk_eq_ok, Json.obj.injEq, exists_and_left, exists_eq_left']
    constructor
    · rintro ⟨rfl, clean⟩
      obtain ⟨clean, required, filled⟩ := (fillFields_clean path _).mp (Prod.ext rfl clean)
      obtain ⟨-, results, each, gathered⟩ := (checkEntries_clean free path ([], [])).mp (Prod.ext rfl clean)
      have gathered := congrArg (Fields.insertAll · (absentDefaults fields entries)) gathered
      refine ⟨results, each, required, congrArg Json.obj ?_⟩
      exact (filled.trans gathered).trans Fields.insertAll_append.symm
    · rintro ⟨results, each, required, rfl⟩
      have gathered := (checkEntries_clean free path ([], [])).mpr
        ⟨rfl, results, each, rfl⟩
      have filled := (fillFields_clean path (Fields.insertAll [] results, [])).mpr ⟨rfl, required, rfl⟩
      rw [gathered, filled]
      exact ⟨congrArg Json.obj Fields.insertAll_append.symm, rfl⟩
  · rename_i other
    simp only [Checked.failed_ne_ok, false_iff]
    rintro ⟨entries, _, rfl, -⟩
    exact other entries rfl

end Record

/-! ### Alternatives -/

theorem closest?_mem {outcomes : List (Shape × Checked)} {rank : Bool × Nat} {checked : Checked}
    (found : closest? value outcomes = some (rank, checked)) :
    ∃ alternative, (alternative, checked) ∈ outcomes := by
  have best : ∀ rank checked, closest? value outcomes = some (rank, checked) →
      ∃ alternative, (alternative, checked) ∈ outcomes := by
    rw [closest?]
    refine List.foldlRecOn outcomes _ (motive := fun best => ∀ rank checked,
      best = some (rank, checked) → ∃ alternative, (alternative, checked) ∈ outcomes) nofun ?_
    rintro best kept ⟨alternative, other⟩ member rank checked next
    simp only at next
    split at next
    · exact kept rank checked next
    · split at next
      · cases next
        exact ⟨alternative, member⟩
      · split at next
        · cases next
          exact ⟨alternative, member⟩
        · exact kept rank checked next
  exact best rank checked found

/-- Only an outcome without violations is chosen as one that fits. -/
theorem select_ok_iff {description : String} {outcomes : List (Shape × Checked)} :
    select description outcomes path value = .ok result ↔
      ∃ alternative, outcomes.find? (fun outcome => outcome.2.fits) = some (alternative, .ok result) := by
  unfold select
  split
  · rename_i alternative checked found
    rw [found]
    simp
  · rename_i none
    rw [none]
    simp only [reduceCtorEq, exists_false, iff_false]
    split
    · rename_i rank checked found
      rintro rfl
      obtain ⟨alternative, member⟩ := closest?_mem found
      exact List.find?_eq_none.mp none _ member (Checked.ok_fits result)
    · exact Checked.failed_ne_ok

theorem outcomes_eq_map (alternatives : List Shape) (path : String) (value : Json) :
    outcomes alternatives path value = alternatives.map fun shape => (shape, check shape path value) := by
  induction alternatives with
  | nil => rfl
  | cons shape rest ih => rw [outcomes, ih, List.map_cons]

/-- Some alternative accepts the value, and none before it accepts it with any result. -/
def SomeCompletes (alternatives : List Shape) (value result : Json) : Prop :=
  ∃ before shape after, alternatives = before ++ shape :: after ∧ Completes shape value result ∧
    ∀ other ∈ before, ∀ result, ¬ Completes other value result

theorem selectOutcomes_ok_iff {alternatives : List Shape}
    (free : ∀ shape ∈ alternatives, PathFree (check shape)) {description : String} :
    select description (outcomes alternatives path value) path value = .ok result ↔
      SomeCompletes alternatives value result := by
  have fits_iff (shape : Shape) (member : shape ∈ alternatives) :
      (check shape path value).fits = true ↔ ∃ result, Completes shape value result := by
    rw [Checked.fits_iff]
    constructor
    · exact fun accepted => ⟨_, (free shape member).gives.mp accepted⟩
    · rintro ⟨result, completes⟩
      rw [completes path]
      rfl
  rw [select_ok_iff, outcomes_eq_map, List.find?_map]
  simp only [Option.map_eq_some_iff, List.find?_eq_some_iff_append, Function.comp_apply, Prod.mk.injEq,
    Bool.not_eq_true']
  constructor
  · rintro ⟨_, shape, ⟨-, before, after, rfl, others⟩, rfl, accepted⟩
    refine ⟨before, shape, after, rfl, (free shape (by simp)).gives.mp accepted, ?_⟩
    intro other member result completes
    have fits := (fits_iff other (List.mem_append_left _ member)).mpr ⟨result, completes⟩
    rw [others other member] at fits
    cases fits
  · rintro ⟨before, shape, after, rfl, completes, others⟩
    refine ⟨shape, shape, ⟨(fits_iff shape (by simp)).mpr ⟨result, completes⟩, before, after, rfl, ?_⟩,
      rfl, completes path⟩
    intro other member
    refine Bool.eq_false_iff.mpr fun fits => ?_
    obtain ⟨result, completes⟩ := (fits_iff other (List.mem_append_left _ member)).mp fits
    exact others other member result completes

/-! ### The check -/

mutual

/-- Whether a shape accepts a value, and with which result, does not depend on the path. -/
theorem check_pathFree : ∀ shape : Shape, PathFree (check shape)
  | .any => fun _ _ _ accepted _ => accepted
  | .null => pathFree_of_iff fun path value result => by rw [check, checkKind_ok_iff]
  | .bool => pathFree_of_iff fun path value result => by rw [check, checkKind_ok_iff]
  | .int => pathFree_of_iff fun path value result => by rw [check, checkKind_ok_iff]
  | .number => pathFree_of_iff fun path value result => by rw [check, checkKind_ok_iff]
  | .str => pathFree_of_iff fun path value result => by rw [check, checkKind_ok_iff]
  | .literal expected => by
    intro path value result accepted other
    rw [check] at accepted ⊢
    split at accepted
    · rename_i same
      rw [if_pos same]
      exact accepted
    · exact absurd accepted Checked.failed_ne_ok
  | .oneOf alternatives => pathFree_of_iff fun path value result => by
    rw [check, selectOutcomes_ok_iff (alternatives_pathFree alternatives)]
  | .list inner => pathFree_of_iff fun path value result => by
    rw [check, checkList_ok_iff (check_pathFree inner)]
  | .map inner => pathFree_of_iff fun path value result => by
    rw [check, checkMap_ok_iff (check_pathFree inner)]
  | .record fields isOpen => pathFree_of_iff fun path value result => by
    rw [check, checkRecord_ok_iff (fields_pathFree fields)]
  | .keyedBy discriminants inner => pathFree_of_iff fun path value result => by
    rw [check, checkKeyed_ok_iff (check_pathFree inner)]

theorem alternatives_pathFree : ∀ shapes : List Shape, ∀ shape ∈ shapes, PathFree (check shape)
  | [] => nofun
  | first :: rest => List.forall_mem_cons.mpr ⟨check_pathFree first, alternatives_pathFree rest⟩

theorem fields_pathFree : ∀ fields : List Field, ∀ field ∈ fields, PathFree (check field.shape)
  | [] => nofun
  | .mk _ shape _ :: rest => List.forall_mem_cons.mpr ⟨check_pathFree shape, fields_pathFree rest⟩

end

theorem check_ok_iff {shape : Shape} : check shape path value = .ok result ↔ Completes shape value result :=
  (check_pathFree shape).gives

theorem validate_ok_iff {shape : Shape} {context : String} :
    validate shape value context = .ok result ↔ Completes shape value result := by
  rw [← @check_ok_iff "", validate]
  constructor
  · intro valid
    split at valid
    · rename_i fits
      cases valid
      exact Checked.fits_iff.mp fits
    · cases valid
  · intro accepted
    rw [accepted]
    rfl

/-! ### The rules -/

theorem completes_any : Completes .any value result ↔ result = value :=
  completes_of_iff fun path => by simp [check, Checked.ok, eq_comm]

theorem completes_null : Completes .null value result ↔ value = .null ∧ result = value :=
  completes_of_iff fun path => by rw [check, checkKind_ok_iff, beq_iff_eq]

theorem completes_bool : Completes .bool value result ↔ isBool value = true ∧ result = value :=
  completes_of_iff fun path => by rw [check, checkKind_ok_iff]

theorem completes_int : Completes .int value result ↔ isInt value = true ∧ result = value :=
  completes_of_iff fun path => by rw [check, checkKind_ok_iff]

theorem completes_number : Completes .number value result ↔ isNumber value = true ∧ result = value :=
  completes_of_iff fun path => by rw [check, checkKind_ok_iff]

theorem completes_str : Completes .str value result ↔ isStr value = true ∧ result = value :=
  completes_of_iff fun path => by rw [check, checkKind_ok_iff]

theorem completes_literal {expected : Json} :
    Completes (.literal expected) value result ↔ value.same expected = true ∧ result = value :=
  completes_of_iff fun path => by
    rw [check]
    split
    · simp [*, Checked.ok, eq_comm]
    · simp [*, Checked.failed_ne_ok]

theorem completes_oneOf {alternatives : List Shape} :
    Completes (.oneOf alternatives) value result ↔ SomeCompletes alternatives value result :=
  completes_of_iff fun path => by
    rw [check, selectOutcomes_ok_iff (alternatives_pathFree alternatives)]

theorem completes_list {inner : Shape} :
    Completes (.list inner) value result ↔ ∃ items results, value = .arr items ∧
      result = .arr results ∧ List.Forall₂ (Completes inner) items results :=
  completes_of_iff fun path => by
    rw [check, checkList_ok_iff (check_pathFree inner)]
    rfl

theorem completes_map {inner : Shape} :
    Completes (.map inner) value result ↔ ∃ entries results, value = .obj entries ∧
      result = .obj results ∧ Entrywise (Completes inner) entries results :=
  completes_of_iff fun path => by
    rw [check, checkMap_ok_iff (check_pathFree inner)]
    rfl

theorem completes_record {fields : List Field} {isOpen : Bool} :
    Completes (.record fields isOpen) value result ↔ RecordCompletes fields isOpen value result :=
  completes_of_iff fun path => by
    rw [check, checkRecord_ok_iff (fields_pathFree fields)]

theorem completes_keyedBy {discriminants : List String} {inner : Shape} :
    Completes (.keyedBy discriminants inner) value result ↔
      KeyedGives discriminants (check inner) value result :=
  completes_of_iff fun path => by
    rw [check, checkKeyed_ok_iff (check_pathFree inner)]

end Shape

end TaskPlan
