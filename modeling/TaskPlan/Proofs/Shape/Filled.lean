import TaskPlan.Proofs.Json.Inside
import TaskPlan.Proofs.Shape.Conforms
import TaskPlan.Proofs.Shape.Settled

/-!
# What validation adds

Validation goes well exactly for values of the shape, and what it gives is the value with the
defaults of absent fields, in all mappings inside that the shape describes as records
(`Filled`). So the value stays as it is and where it is (`Json.Grows`), with entries after
those of such a mapping at most (`validate_fills`).
-/

namespace TaskPlan

/-! ### Values that have grown -/

namespace Json

mutual

/-- The result has the leaves of the value, as many items in each list, and the entries of each
mapping before those that are new in it. -/
inductive Grows : (value result : Json) → Prop where
  | leaf {value : Json} (noItems : value.arr? = none) (noEntries : value.obj? = none) : Grows value value
  | list {items results : List Json} (each : GrowsItems items results) : Grows (.arr items) (.arr results)
  | mapping {entries results : Fields} (each : GrowsEntries entries results) :
      Grows (.obj entries) (.obj results)

inductive GrowsItems : (items results : List Json) → Prop where
  | nil : GrowsItems [] []
  | cons {item result : Json} {rest others : List Json} (here : Grows item result)
      (later : GrowsItems rest others) : GrowsItems (item :: rest) (result :: others)

inductive GrowsEntries : (entries results : Fields) → Prop where
  | nil (added : Fields) : GrowsEntries [] added
  | cons {key : String} {value result : Json} {rest others : Fields} (here : Grows value result)
      (later : GrowsEntries rest others) : GrowsEntries ((key, value) :: rest) ((key, result) :: others)

end

mutual

theorem Grows.refl : ∀ value : Json, Grows value value
  | .arr items => .list (GrowsItems.refl items)
  | .obj entries => .mapping (GrowsEntries.refl entries)
  | .null | .bool _ | .num _ | .str _ => .leaf rfl rfl

theorem GrowsItems.refl : ∀ items : List Json, GrowsItems items items
  | [] => .nil
  | item :: rest => .cons (Grows.refl item) (GrowsItems.refl rest)

theorem GrowsEntries.refl : ∀ entries : List (String × Json), GrowsEntries entries entries
  | [] => .nil []
  | (_, value) :: rest => .cons (Grows.refl value) (GrowsEntries.refl rest)

end

theorem GrowsEntries.append (added : Fields) {entries results : Fields} :
    GrowsEntries entries results → GrowsEntries entries (results ++ added)
  | .nil others => .nil (others ++ added)
  | .cons here later => .cons here (later.append added)

end Json

namespace Shape

/-! ### Values with defaults -/

/-- The shapes that describe no values inside. -/
def isAtomic : Shape → Bool
  | .oneOf _ | .list _ | .map _ | .record _ _ | .keyedBy _ _ => false
  | _ => true

/-- The shape of a value in a record: that of the first field with its name. -/
def shapeAt (fields : List Field) (name : String) : Shape :=
  match fields.find? (fun field => field.name == name) with
  | some field => field.shape
  | none => .any

mutual

/-- The result has the defaults of absent fields after the entries of each mapping that the
shape describes as a record, and is otherwise as the value. Of several alternatives the first
one to which the value conforms describes it. -/
inductive Filled : Shape → (value result : Json) → Prop where
  | atom {shape : Shape} {value : Json} (atomic : shape.isAtomic = true) : Filled shape value value
  | oneOf {before after : List Shape} {shape : Shape} {value result : Json}
      (earlier : ∀ other ∈ before, ¬ Conforms other value) (conforms : Conforms shape value)
      (filled : Filled shape value result) : Filled (.oneOf (before ++ shape :: after)) value result
  | list {inner : Shape} {items results : List Json} (each : FilledItems inner items results) :
      Filled (.list inner) (.arr items) (.arr results)
  | map {inner : Shape} {entries results : Fields} (each : FilledEntries (fun _ => inner) entries results) :
      Filled (.map inner) (.obj entries) (.obj results)
  | record {fields : List Field} {isOpen : Bool} {entries results : Fields}
      (each : FilledEntries (shapeAt fields) entries results) :
      Filled (.record fields isOpen) (.obj entries)
        (.obj (Fields.ofList (results ++ absentDefaults fields entries)))
  | plain {discriminants : List String} {inner : Shape} {value result : Json}
      (unkeyed : ∀ name content, value ≠ .obj [(KeyedBy.marker ++ name, content)])
      (filled : Filled inner value result) : Filled (.keyedBy discriminants inner) value result
  | keyed {discriminants : List String} {inner : Shape} {name : String} {alternatives results : Fields}
      (each : FilledEntries (fun _ => .keyedBy discriminants inner) alternatives results) :
      Filled (.keyedBy discriminants inner) (.obj [(KeyedBy.marker ++ name, .obj alternatives)])
        (.obj [(KeyedBy.marker ++ name, .obj results)])

inductive FilledItems : (inner : Shape) → (items results : List Json) → Prop where
  | nil {inner : Shape} : FilledItems inner [] []
  | cons {inner : Shape} {item result : Json} {rest others : List Json} (here : Filled inner item result)
      (later : FilledItems inner rest others) : FilledItems inner (item :: rest) (result :: others)

inductive FilledEntries : (shapeAt : String → Shape) → (entries results : Fields) → Prop where
  | nil {shapeAt : String → Shape} : FilledEntries shapeAt [] []
  | cons {shapeAt : String → Shape} {key : String} {value result : Json} {rest others : Fields}
      (here : Filled (shapeAt key) value result) (later : FilledEntries shapeAt rest others) :
      FilledEntries shapeAt ((key, value) :: rest) ((key, result) :: others)

end

variable {value result : Json}

theorem filledItems_of_forall₂ {inner : Shape} {items results : List Json}
    (each : List.Forall₂ (Filled inner) items results) : FilledItems inner items results := by
  induction each with
  | nil => exact .nil
  | cons here _ ih => exact .cons here ih

theorem filledEntries_of_forall₂ {shapeAt : String → Shape} {entries results : Fields}
    (each : List.Forall₂ (fun entry result => result.1 = entry.1 ∧
      Filled (shapeAt entry.1) entry.2 result.2) entries results) : FilledEntries shapeAt entries results := by
  induction each with
  | nil => exact .nil
  | @cons entry result _ _ here _ ih =>
    obtain ⟨key, value⟩ := entry
    obtain ⟨_, result⟩ := result
    obtain ⟨rfl, here⟩ := here
    exact .cons here ih

theorem keys_of_filledEntries {shapeAt : String → Shape} {entries results : Fields} :
    FilledEntries shapeAt entries results → results.keys = entries.keys
  | .nil => rfl
  | .cons _ later => congrArg (List.cons _) (keys_of_filledEntries later)

/-! ### What is accepted is filled in -/

theorem filled_of_completes (shape : Shape) :
    ∀ value result, Completes shape value result → Filled shape value result := by
  have unchanged {shape : Shape} (atomic : shape.isAtomic = true) {value result : Json}
      (same : result = value) : Filled shape value result := same ▸ .atom atomic
  induction shape using induction_on_parts with
  | any => exact fun value result completes => unchanged rfl (completes_any.mp completes)
  | null => exact fun value result completes => unchanged rfl (completes_null.mp completes).2
  | bool => exact fun value result completes => unchanged rfl (completes_bool.mp completes).2
  | int => exact fun value result completes => unchanged rfl (completes_int.mp completes).2
  | number => exact fun value result completes => unchanged rfl (completes_number.mp completes).2
  | str => exact fun value result completes => unchanged rfl (completes_str.mp completes).2
  | literal _ => exact fun value result completes => unchanged rfl (completes_literal.mp completes).2
  | oneOf alternatives ih =>
    intro value result completes
    obtain ⟨before, shape, after, rfl, completes, earlier⟩ := completes_oneOf.mp completes
    refine .oneOf (fun other member conforms => ?_) (conforms_iff.mpr ⟨result, completes⟩)
      (ih shape (by simp) value result completes)
    obtain ⟨result, accepted⟩ := conforms_iff.mp conforms
    exact earlier other member result accepted
  | list inner ih =>
    intro value result completes
    obtain ⟨items, results, rfl, rfl, each⟩ := completes_list.mp completes
    exact .list (filledItems_of_forall₂ (each.imp ih))
  | map inner ih =>
    intro value result completes
    obtain ⟨entries, results, rfl, rfl, each⟩ := completes_map.mp completes
    exact .map (filledEntries_of_forall₂ (each.imp fun _ _ here => ⟨here.1, ih _ _ here.2⟩))
  | record fields isOpen ih =>
    intro value result completes
    obtain ⟨entries, results, rfl, each, -, rfl⟩ := completes_record.mp completes
    refine .record (filledEntries_of_forall₂ (each.imp fun entry result here => ⟨here.1, ?_⟩))
    have accepted := here.2
    rw [shapeAt]
    cases found : fields.find? fun field => field.name == entry.1 with
    | none =>
      rw [found] at accepted
      exact unchanged rfl accepted.2
    | some field =>
      rw [found] at accepted
      exact ih field (List.mem_of_find?_eq_some found) entry.2 result.2 accepted
  | keyedBy discriminants inner ih =>
    intro value result completes
    refine (completes_keyedBy.mp completes).elim (motive := Filled _) ?_ ?_
    · exact fun value result unkeyed gives =>
        .plain (KeyedBy.unkeyed_iff.mp unkeyed) (ih value result gives)
    · intro name _ key entries results marked each
      rw [Text.after?_eq_some.mp marked]
      exact .keyed (filledEntries_of_forall₂ each)

/-! ### What is filled in has grown -/

theorem ofList_absentDefaults {fields : List Field} {entries results : Fields}
    (keys : results.keys = entries.keys) (distinct : entries.keys.Nodup) :
    Fields.ofList (results ++ absentDefaults fields entries) =
      results ++ Fields.ofList (absentDefaults fields entries) := by
  refine Fields.ofList_append (keys ▸ distinct) fun key added there => ?_
  obtain ⟨⟨_, value⟩, member, rfl⟩ := List.mem_map.mp added
  have absent := (mem_absentDefaults.mp member).1
  rw [Fields.contains_iff_mem_keys.mpr (keys ▸ there)] at absent
  cases absent

mutual

theorem grows_of_filled {shape : Shape} {value result : Json} :
    Filled shape value result → value.Distinct → value.Grows result
  | .atom _, _ => .refl _
  | .oneOf _ _ filled, distinct => grows_of_filled filled distinct
  | .list each, distinct => .list (grows_of_filledItems each (Json.distinct_arr.mp distinct))
  | .map each, distinct => .mapping (grows_of_filledEntries each (Json.distinct_obj.mp distinct).2)
  | .record each, distinct => by
    obtain ⟨keys, inside⟩ := Json.distinct_obj.mp distinct
    rw [ofList_absentDefaults (keys_of_filledEntries each) keys]
    exact .mapping ((grows_of_filledEntries each inside).append _)
  | .plain _ filled, distinct => grows_of_filled filled distinct
  | .keyed each, distinct => by
    have alternatives := (Json.distinct_obj.mp distinct).2 _ List.mem_cons_self
    have grows := grows_of_filledEntries each (Json.distinct_obj.mp alternatives).2
    exact .mapping (.cons (.mapping grows) (.nil []))

theorem grows_of_filledItems {inner : Shape} {items results : List Json} :
    FilledItems inner items results → (∀ item ∈ items, item.Distinct) → Json.GrowsItems items results
  | .nil, _ => .nil
  | .cons here later, distinct => by
    obtain ⟨first, rest⟩ := List.forall_mem_cons.mp distinct
    exact .cons (grows_of_filled here first) (grows_of_filledItems later rest)

theorem grows_of_filledEntries {shapeAt : String → Shape} {entries results : Fields} :
    FilledEntries shapeAt entries results → (∀ entry ∈ entries, entry.2.Distinct) →
      Json.GrowsEntries entries results
  | .nil, _ => .nil []
  | .cons here later, distinct => by
    obtain ⟨first, rest⟩ := List.forall_mem_cons.mp distinct
    exact .cons (grows_of_filled here first) (grows_of_filledEntries later rest)

end

/-- Exactly the values that conform to a shape are validated, and what this gives has the value
as it is with the defaults of absent fields. -/
theorem validate_fills (shape : Shape) (value : Json) (context : String) :
    ((∃ result, validate shape value context = .ok result) ↔ Conforms shape value) ∧
      ∀ result, validate shape value context = .ok result →
        Filled shape value result ∧ (value.Distinct → value.Grows result) := by
  simp only [validate_ok_iff]
  refine ⟨conforms_iff.symm, fun result completes => ?_⟩
  have filled := filled_of_completes shape value result completes
  exact ⟨filled, grows_of_filled filled⟩

/-- A command, or a record with a default for a text and one with a default inside, by platform. -/
def stepShape : Shape := .keyedBy ["platform"] (.oneOf [.str, .record [
  .required "run" .str,
  .withDefault "shell" .str (.str "sh"),
  .optional "limits" (.record [.withDefault "files" (.list .str) (.arr [])] false)] true])

def givenStep : Json := .obj [("by-platform", .obj [
  ("linux", .obj [("limits", .obj []), ("note", .null), ("run", .str "make")]),
  ("default", .str "skip")])]

def filledStep : Json := .obj [("by-platform", .obj [
  ("linux", .obj [("limits", .obj [("files", .arr [])]), ("note", .null), ("run", .str "make"),
    ("shell", .str "sh")]),
  ("default", .str "skip")])]

theorem validate_fills_step : validate stepShape givenStep "step" = .ok filledStep ∧
    Conforms stepShape givenStep ∧ Filled stepShape givenStep filledStep ∧ givenStep.Grows filledStep := by
  have valid : validate stepShape givenStep "step" = .ok filledStep := ok_of_toOption (by decide +kernel)
  have null : Json.null.Distinct := Json.distinct_leaf rfl rfl
  have str (text : String) : (Json.str text).Distinct := Json.distinct_leaf rfl rfl
  have distinct : givenStep.Distinct := by
    simp [givenStep, Json.distinct_obj, Fields.keys, null, str]
  obtain ⟨accepted, fills⟩ := validate_fills stepShape givenStep "step"
  obtain ⟨filled, grows⟩ := fills filledStep valid
  exact ⟨valid, accepted.mp ⟨filledStep, valid⟩, filled, grows distinct⟩

end Shape

end TaskPlan
