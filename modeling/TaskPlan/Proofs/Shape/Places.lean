import TaskPlan.Proofs.Shape.Settled

/-!
# Values inside values

What stands at a path of a value of a shape is of one of the shapes at that path
(`settled_getAt`), and required fields are there (`Settled.exists_fields`).
-/

namespace TaskPlan

namespace Shape

variable {value : Json}

mutual

/-- The shapes that a value under a key may have, one for each alternative that allows the key. -/
def under : Shape → String → List Shape
  | .any, _ => [.any]
  | .literal _, _ => [.any]
  | .oneOf alternatives, key => underAll alternatives key
  | .map inner, _ => [inner]
  | .record fields isOpen, key =>
    match fields.find? fun field => field.name == key with
    | some field => [field.shape]
    | none => if isOpen then [.any] else []
  | .keyedBy _ _, _ => [.any]
  | _, _ => []
termination_by structural shape => shape

def underAll : List Shape → String → List Shape
  | [], _ => []
  | shape :: rest, key => under shape key ++ underAll rest key
termination_by structural shapes => shapes

end

def underPath : Shape → List String → List Shape
  | shape, [] => [shape]
  | shape, key :: path => (shape.under key).flatMap fun inner => underPath inner path

theorem settled_any (value : Json) : Settled .any value := completes_any.mpr rfl

theorem settled_literal {text : String} : Settled (.literal (.str text)) value ↔ value = .str text := by
  rw [Settled, completes_literal, and_iff_left rfl]
  cases value <;> simp [Json.same]

theorem exists_of_settled_oneOf {alternatives : List Shape} (settled : Settled (.oneOf alternatives) value) :
    ∃ shape ∈ alternatives, Settled shape value := by
  obtain ⟨before, shape, after, rfl, settled, -⟩ := completes_oneOf.mp settled
  exact ⟨shape, by simp, settled⟩

theorem exists_of_settled_enumeration {texts : List String} (settled : Settled (.enumeration texts) value) :
    ∃ text ∈ texts, value = .str text := by
  obtain ⟨_, member, settled⟩ := exists_of_settled_oneOf settled
  obtain ⟨text, known, rfl⟩ := List.mem_map.mp member
  exact ⟨text, known, settled_literal.mp settled⟩

theorem exists_of_settled_bool (settled : Settled .bool value) : ∃ b, value = .bool b := by
  have boolean := (completes_bool.mp settled).1
  cases value <;> cases boolean
  exact ⟨_, rfl⟩

theorem exists_of_settled_number (settled : Settled .number value) : ∃ n, value = .num n := by
  have number := (completes_number.mp settled).1
  cases value <;> cases number
  exact ⟨_, rfl⟩

theorem exists_of_settled_str (settled : Settled .str value) : ∃ text, value = .str text := by
  have text := (completes_str.mp settled).1
  cases value <;> cases text
  exact ⟨_, rfl⟩

theorem exists_of_settled_int (settled : Settled .int value) : ∃ n fits, value = .num (.int n fits) := by
  have integer := (completes_int.mp settled).1
  unfold isInt at integer
  split at integer
  · exact ⟨_, _, rfl⟩
  · cases integer

theorem settled_list {inner : Shape} :
    Settled (.list inner) value ↔ ∃ items, value = .arr items ∧ ∀ item ∈ items, Settled inner item := by
  rw [Settled, completes_list]
  constructor
  · rintro ⟨items, _, rfl, same, each⟩
    cases same
    have each := List.forall₂_same.mp each
    exact ⟨items, rfl, each⟩
  · rintro ⟨items, rfl, each⟩
    exact ⟨items, items, rfl, rfl, List.forall₂_same.mpr each⟩

theorem settled_map {inner : Shape} : Settled (.map inner) value ↔
    ∃ entries : Fields, value = .obj entries ∧ ∀ entry ∈ entries, Settled inner entry.2 := by
  rw [Settled, completes_map]
  constructor
  · rintro ⟨entries, _, rfl, same, each⟩
    cases same
    exact ⟨entries, rfl, fun entry member => (List.forall₂_same.mp each entry member).2⟩
  · rintro ⟨entries, rfl, each⟩
    exact ⟨entries, entries, rfl, rfl, List.forall₂_same.mpr fun entry member => ⟨rfl, each entry member⟩⟩

/-! ### Fields -/

section Record

variable {fields : List Field} {isOpen : Bool} {entries : Fields}

/-- The shape of a declared field is that of the value. -/
theorem Settled.field (settled : Settled (.record fields isOpen) (.obj entries))
    (distinct : distinctNames fields = true) {field : Field} (member : field ∈ fields)
    (found : entries.get? field.name = some value) : Settled field.shape value := by
  obtain ⟨_, same, -, fits, -⟩ := settled_record.mp settled
  cases same
  have fits := fits _ _ found
  rwa [Fits, find?_of_distinct distinct member] at fits

/-- The fields that are not optional are there. -/
theorem Settled.exists_fields (settled : Settled (.record fields isOpen) (.obj entries))
    (distinct : distinctNames fields = true) : ∀ field ∈ fields, field.presence ≠ .optional →
      ∃ value, entries.get? field.name = some value ∧ Settled field.shape value := by
  intro field member needed
  obtain ⟨_, same, -, -, present⟩ := settled_record.mp settled
  cases same
  obtain ⟨value, found⟩ := Option.isSome_iff_exists.mp (present field member needed)
  exact ⟨value, found, settled.field distinct member found⟩

/-- A closed record with a single field has nothing beside it. -/
theorem exists_of_settled_single {name : String} {shape : Shape}
    (settled : Settled (.record [.mk name shape .required] false) value) :
    ∃ inner, value = .obj [(name, inner)] ∧ Settled shape inner := by
  obtain ⟨entries, rfl, unique, fits, -⟩ := settled_record.mp settled
  obtain ⟨inner, found, accepted⟩ := settled.exists_fields (by simp [distinctNames]) _ List.mem_cons_self nofun
  refine ⟨inner, ?_, accepted⟩
  have only (entry : String × Json) (member : entry ∈ entries) : entry.1 = name := by
    have fits := fits entry.1 entry.2 ((Fields.mem_iff_get? unique).mp member)
    by_contra other
    have unknown : (Field.mk name shape .required).name ≠ entry.1 := Ne.symm other
    rw [Fits, List.find?_cons_of_neg (by simpa using unknown)] at fits
    cases fits
  have there : (name, inner) ∈ entries := Fields.mem_of_get? found
  cases entries with
  | nil => cases there
  | cons first rest =>
    obtain ⟨fresh, -⟩ := List.nodup_cons.mp unique
    cases rest with
    | nil => rw [List.mem_singleton.mp there]
    | cons second rest =>
      have again := (only first (by simp)).trans (only second (by simp)).symm
      exact absurd (by simp [again]) fresh

end Record

/-! ### Values at paths -/

mutual

theorem settled_get? : ∀ (shape : Shape) (value : Json), Settled shape value →
    ∀ key inner, value.get? key = some inner → ∃ within ∈ shape.under key, Settled within inner
  | .any, _, _, key, inner, _ => ⟨.any, by simp [under], settled_any inner⟩
  | .literal _, _, _, key, inner, _ => ⟨.any, by simp [under], settled_any inner⟩
  | .keyedBy _ _, _, _, key, inner, _ => ⟨.any, by simp [under], settled_any inner⟩
  | .oneOf alternatives, value, settled, key, inner, found => by
    obtain ⟨shape, member, settled⟩ := exists_of_settled_oneOf settled
    rw [under]
    exact settled_get?_all alternatives shape member value settled key inner found
  | .map shape, value, settled, key, inner, found => by
    obtain ⟨entries, rfl, each⟩ := settled_map.mp settled
    exact ⟨shape, by simp [under], each _ (Fields.mem_of_get? found)⟩
  | .record fields isOpen, value, settled, key, inner, found => by
    obtain ⟨entries, rfl, -, fits, -⟩ := settled_record.mp settled
    have fits := fits key inner found
    unfold Fits at fits
    cases declared : fields.find? fun field => field.name == key with
    | none =>
      rw [declared] at fits
      exact ⟨.any, by simp only [under, declared, if_pos fits, List.mem_singleton], settled_any inner⟩
    | some field =>
      rw [declared] at fits
      exact ⟨field.shape, by simp only [under, declared, List.mem_singleton], fits⟩
  | .null, value, settled, key, inner, found => by
    rw [(completes_null.mp settled).1] at found
    cases found
  | .bool, value, settled, key, inner, found => by
    obtain ⟨_, rfl⟩ := exists_of_settled_bool settled
    cases found
  | .int, value, settled, key, inner, found => by
    obtain ⟨_, _, rfl⟩ := exists_of_settled_int settled
    cases found
  | .number, value, settled, key, inner, found => by
    obtain ⟨_, rfl⟩ := exists_of_settled_number settled
    cases found
  | .str, value, settled, key, inner, found => by
    obtain ⟨_, rfl⟩ := exists_of_settled_str settled
    cases found
  | .list _, value, settled, key, inner, found => by
    obtain ⟨_, rfl, -⟩ := settled_list.mp settled
    cases found

theorem settled_get?_all : ∀ shapes : List Shape, ∀ shape ∈ shapes, ∀ value, Settled shape value →
    ∀ key inner, value.get? key = some inner → ∃ within ∈ underAll shapes key, Settled within inner
  | [] => nofun
  | first :: rest => by
    refine List.forall_mem_cons.mpr ⟨fun value settled key inner found => ?_,
      fun shape member value settled key inner found => ?_⟩
    · obtain ⟨within, member, accepted⟩ := settled_get? first value settled key inner found
      exact ⟨within, by simp [underAll, member], accepted⟩
    · obtain ⟨within, member, accepted⟩ :=
        settled_get?_all rest shape member value settled key inner found
      exact ⟨within, by simp [underAll, member], accepted⟩

end

/-- There is nothing under a key that no alternative allows. -/
theorem get?_eq_none {shape : Shape} {key : String} (settled : Settled shape value)
    (nowhere : shape.under key = []) : value.get? key = none := by
  by_contra there
  obtain ⟨inner, found⟩ := Option.ne_none_iff_exists'.mp there
  obtain ⟨within, member, -⟩ := settled_get? shape value settled key inner found
  rw [nowhere] at member
  cases member

/-- A record has a field with this name that is not optional. -/
def demands : Shape → String → Bool
  | .record fields _, key => fields.any fun field => field.name == key && field.presence != .optional
  | _, _ => false

/-- What stands under a key that is demanded. -/
theorem Settled.exists_at {shape : Shape} {entries : Fields} (settled : Settled shape (.obj entries))
    (key : String) (within : Shape) (demanded : shape.demands key = true) (only : shape.under key = [within]) :
    ∃ inner, entries.get? key = some inner ∧ Settled within inner := by
  unfold demands at demanded
  split at demanded
  · obtain ⟨field, member, holds⟩ := List.any_eq_true.mp demanded
    obtain ⟨named, needed⟩ := Bool.and_eq_true_iff.mp holds
    obtain ⟨_, same, -, -, present⟩ := settled_record.mp settled
    cases same
    have there := present field member (bne_iff_ne.mp needed)
    rw [eq_of_beq named] at there
    obtain ⟨inner, found⟩ := Option.isSome_iff_exists.mp there
    obtain ⟨other, inside, accepted⟩ := settled_get? _ _ settled key inner found
    rw [only, List.mem_singleton] at inside
    exact ⟨inner, found, inside ▸ accepted⟩
  · cases demanded

theorem settled_getAt {path : List String} (place : path ≠ []) {shape : Shape} {entries : Fields}
    {inner : Json} (settled : Settled shape (.obj entries)) (found : entries.getAt path = some inner) :
    ∃ within ∈ shape.underPath path, Settled within inner := by
  induction path generalizing shape entries with
  | nil => exact absurd rfl place
  | cons key rest ih =>
    cases rest with
    | nil =>
      obtain ⟨within, member, accepted⟩ := settled_get? shape _ settled key inner found
      exact ⟨within, by simpa [underPath] using member, accepted⟩
    | cons next rest =>
      obtain ⟨deeper, here, found⟩ := Fields.getAt_inside_iff.mp found
      obtain ⟨middle, member, accepted⟩ := settled_get? shape _ settled key _ here
      obtain ⟨within, inside, accepted⟩ := ih (by simp) accepted found
      exact ⟨within, List.mem_flatMap.mpr ⟨middle, member, inside⟩, accepted⟩

end Shape

end TaskPlan
