import TaskPlan.Proofs.Shape.Completes

/-!
# Completing again

A shape may accept what it has completed with another result, if one of its alternatives
takes the completed value from another one or a default does not fit. The shapes for which
this cannot happen can be told by looking at them (`Shape.regular`): they accept their
results as they are (`settled_of_completes`).
-/

namespace TaskPlan

namespace Shape

/-- The shape accepts the value as it is. -/
def Settled (shape : Shape) (value : Json) : Prop := Completes shape value value

variable {value result : Json}

/-! ### Records -/

section Record

variable {fields : List Field} {isOpen : Bool} {entries results : Fields}

theorem keys_of_entryCompletes (each : List.Forall₂ (EntryCompletes fields isOpen) entries results) :
    results.keys = entries.keys := by
  induction each with
  | nil => rfl
  | cons here _ ih =>
    rw [Fields.keys, Fields.keys] at ih ⊢
    rw [List.map_cons, List.map_cons, here.1, ih]

theorem mem_absentDefaults {key : String} :
    (key, value) ∈ absentDefaults fields entries ↔
      entries.contains key = false ∧ ∃ field ∈ fields, field.name = key ∧ field.presence = .default value := by
  rw [absentDefaults, List.mem_filterMap]
  constructor
  · rintro ⟨field, member, given⟩
    split at given
    · cases given
    · rename_i absent
      split at given
      · rename_i presence
        cases given
        exact ⟨Bool.eq_false_iff.mpr absent, field, member, rfl, presence⟩
      · cases given
  · rintro ⟨absent, field, member, rfl, presence⟩
    exact ⟨field, member, by simp [absent, presence]⟩

theorem absentDefaults_eq_nil
    (present : ∀ field ∈ fields, field.presence ≠ .optional → entries.contains field.name = true) :
    absentDefaults fields entries = [] := by
  refine List.eq_nil_iff_forall_not_mem.mpr ?_
  rintro ⟨key, value⟩ member
  obtain ⟨absent, field, declared, rfl, presence⟩ := mem_absentDefaults.mp member
  rw [present field declared (by simp [presence])] at absent
  cases absent

/-- The value at a key is one that its field accepts as it is, or an open record has no such
field. -/
def Fits (fields : List Field) (isOpen : Bool) (key : String) (value : Json) : Prop :=
  match fields.find? (fun field => field.name == key) with
  | some field => Settled field.shape value
  | none => isOpen = true

theorem entryCompletes_self {entry : String × Json} :
    EntryCompletes fields isOpen entry entry ↔ Fits fields isOpen entry.1 entry.2 := by
  rw [EntryCompletes, Fits]
  cases fields.find? fun field => field.name == entry.1 <;> simp [Settled]

/-- A record accepts a mapping as it is if this has different keys, values that fit, and all
fields but optional ones. -/
theorem settled_record : Settled (.record fields isOpen) value ↔
    ∃ entries : Fields, value = .obj entries ∧ entries.keys.Nodup ∧
      (∀ key value, entries.get? key = some value → Fits fields isOpen key value) ∧
      ∀ field ∈ fields, field.presence ≠ .optional → entries.contains field.name = true := by
  rw [Settled, completes_record]
  constructor
  · rintro ⟨entries, results, rfl, each, required, same⟩
    rw [Json.obj.injEq] at same
    have present (field : Field) (member : field ∈ fields) (needed : field.presence ≠ .optional) :
        entries.contains field.name = true := by
      cases presence : field.presence with
      | required => exact required field member presence
      | optional => exact absurd presence needed
      | default value =>
        -- a default that was filled in would be an entry
        by_contra absent
        have filled := mem_absentDefaults.mpr
          ⟨Bool.eq_false_iff.mpr absent, field, member, rfl, presence⟩
        refine absent (Fields.contains_iff_mem_keys.mpr ?_)
        rw [same, Fields.mem_keys_ofList]
        exact List.mem_map.mpr ⟨_, List.mem_append_right _ filled, rfl⟩
    have distinct : entries.keys.Nodup := same ▸ Fields.nodup_ofList _
    have unchanged : results = entries := by
      rw [absentDefaults_eq_nil present, List.append_nil, Fields.ofList_of_nodup] at same
      · exact same.symm
      · rwa [keys_of_entryCompletes each]
    rw [unchanged, List.forall₂_same] at each
    refine ⟨entries, rfl, distinct, fun key value found => ?_, present⟩
    exact entryCompletes_self.mp (each (key, value) (Fields.mem_of_get? found))
  · rintro ⟨entries, rfl, distinct, fits, present⟩
    refine ⟨entries, entries, rfl, List.forall₂_same.mpr fun entry member => ?_, ?_, ?_⟩
    · exact entryCompletes_self.mpr (fits entry.1 entry.2 ((Fields.mem_iff_get? distinct).mp member))
    · exact fun field member needed => present field member (by simp [needed])
    · rw [absentDefaults_eq_nil present, List.append_nil, Fields.ofList_of_nodup distinct]

end Record

/-! ### Shapes that change nothing -/

mutual

/-- What the shape accepts it does not change. -/
def rigid : Shape → Bool
  | .any => true
  | .null => true
  | .bool => true
  | .int => true
  | .number => true
  | .str => true
  | .literal _ => true
  | .oneOf alternatives => rigidAll alternatives
  | .list inner => rigid inner
  | .map inner => rigid inner
  | .record _ _ => false
  | .keyedBy _ inner => rigid inner
termination_by structural shape => shape

def rigidAll : List Shape → Bool
  | [] => true
  | shape :: rest => rigid shape && rigidAll rest
termination_by structural shapes => shapes

end

theorem eq_of_entrywise {entries results : Fields}
    (same : Entrywise (fun value result => result = value) entries results) : results = entries := by
  have same : List.Forall₂ Eq entries results :=
    same.imp fun entry result here => (Prod.ext here.1 here.2).symm
  rw [List.forall₂_eq_eq_eq] at same
  exact same.symm

theorem eq_of_keyedGives {discriminants : List String} {inner : Checker}
    (same : ∀ value result, Gives inner value result → result = value)
    (gives : KeyedGives discriminants inner value result) : result = value := by
  refine gives.elim (motive := fun value result => result = value)
    (fun value result _ gives => same value result gives) ?_
  intro name _ key entries results _ each
  rw [eq_of_entrywise each]

mutual

theorem eq_of_rigid : ∀ shape : Shape, shape.rigid = true →
    ∀ value result, Completes shape value result → result = value
  | .any, _, value, result, completes => completes_any.mp completes
  | .null, _, value, result, completes => (completes_null.mp completes).2
  | .bool, _, value, result, completes => (completes_bool.mp completes).2
  | .int, _, value, result, completes => (completes_int.mp completes).2
  | .number, _, value, result, completes => (completes_number.mp completes).2
  | .str, _, value, result, completes => (completes_str.mp completes).2
  | .literal _, _, value, result, completes => (completes_literal.mp completes).2
  | .oneOf alternatives, stiff, value, result, completes => by
    obtain ⟨before, shape, after, rfl, completes, -⟩ := completes_oneOf.mp completes
    rw [rigid] at stiff
    exact eq_of_rigidAll _ stiff shape (by simp) value result completes
  | .list inner, stiff, value, result, completes => by
    obtain ⟨items, results, rfl, rfl, each⟩ := completes_list.mp completes
    rw [rigid] at stiff
    have same : List.Forall₂ Eq items results :=
      each.imp fun item result completes => (eq_of_rigid inner stiff item result completes).symm
    rw [List.forall₂_eq_eq_eq] at same
    rw [same]
  | .map inner, stiff, value, result, completes => by
    obtain ⟨entries, results, rfl, rfl, each⟩ := completes_map.mp completes
    rw [rigid] at stiff
    have same : Entrywise (fun value result => result = value) entries results :=
      each.imp fun entry result here => ⟨here.1, eq_of_rigid inner stiff entry.2 result.2 here.2⟩
    rw [eq_of_entrywise same]
  | .record _ _, stiff, value, result, completes => by simp [rigid] at stiff
  | .keyedBy _ inner, stiff, value, result, completes => by
    rw [rigid] at stiff
    exact eq_of_keyedGives (eq_of_rigid inner stiff) (completes_keyedBy.mp completes)

theorem eq_of_rigidAll : ∀ shapes : List Shape, rigidAll shapes = true →
    ∀ shape ∈ shapes, ∀ value result, Completes shape value result → result = value
  | [], _ => nofun
  | first :: rest, stiff => by
    rw [rigidAll, Bool.and_eq_true] at stiff
    exact List.forall_mem_cons.mpr ⟨eq_of_rigid first stiff.1, eq_of_rigidAll rest stiff.2⟩

end

/-! ### Alternatives that exclude each other -/

/-- The texts that required fields must hold. -/
def textTags (fields : List Field) : List (String × String) :=
  fields.filterMap fun field =>
    match field.presence, field.shape with
    | .required, .literal (.str text) => some (field.name, text)
    | _, _ => none

/-- Some text is required to be another one. -/
def tagsDiffer (fields others : List Field) : Bool :=
  (textTags fields).any fun tag => (textTags others).any fun other =>
    tag.1 == other.1 && tag.2 != other.2

/-- A field that must be there is none of a closed record. -/
def lacks (others : List Field) (isOpen : Bool) (fields : List Field) : Bool :=
  !isOpen && (requiredNames fields).any fun name => !(others.map Field.name).contains name

/-- Two shapes that visibly accept no value both. -/
def separate : Shape → Shape → Bool
  | .record fields isOpen, .record others otherOpen =>
    tagsDiffer fields others || lacks others otherOpen fields || lacks fields isOpen others
  | .null, .record _ _ => true
  | .record _ _, .null => true
  | _, _ => false

def distinctNames (fields : List Field) : Bool := decide (fields.map Field.name).Nodup

def apart (shapes : List Shape) : Bool := decide (shapes.Pairwise fun a b => separate a b = true)

section Record

variable {fields others : List Field} {isOpen otherOpen : Bool}

theorem find?_of_distinct (distinct : distinctNames fields = true) {field : Field}
    (member : field ∈ fields) : fields.find? (fun other => other.name == field.name) = some field := by
  rw [distinctNames, decide_eq_true_eq] at distinct
  induction fields with
  | nil => cases member
  | cons first rest ih =>
    obtain ⟨fresh, distinct⟩ := List.nodup_cons.mp distinct
    rcases List.mem_cons.mp member with rfl | member
    · simp
    · have other : first.name ≠ field.name := fun same => fresh (List.mem_map.mpr ⟨field, member, same.symm⟩)
      rw [List.find?_cons, beq_eq_false_iff_ne.mpr other]
      exact ih distinct member

theorem exists_entry {entries : Fields} {key : String} (present : entries.contains key = true) :
    ∃ value, (key, value) ∈ entries := by
  obtain ⟨value, found⟩ := Option.isSome_iff_exists.mp present
  exact ⟨value, Fields.mem_of_get? found⟩

/-- A value that a record accepts has its required texts. -/
theorem text_of_completes (distinct : distinctNames fields = true) {entries : Fields}
    (completes : Completes (.record fields isOpen) (.obj entries) result) {name text : String}
    (tag : (name, text) ∈ textTags fields) :
    entries.contains name = true ∧ ∀ value, (name, value) ∈ entries → value = .str text := by
  obtain ⟨_, results, same, each, required, -⟩ := completes_record.mp completes
  cases same
  obtain ⟨⟨_, shape, presence⟩, member, tagged⟩ := List.mem_filterMap.mp tag
  split at tagged
  · rename_i presence shape
    cases tagged
    refine ⟨required _ member presence, fun value inside => ?_⟩
    obtain ⟨result, -, -, accepted⟩ := exists_of_forall₂ each inside
    have found := find?_of_distinct distinct member
    simp only [Field.name] at found accepted
    rw [found] at accepted
    simp only [Field.shape] at shape
    simp only [Field.shape, shape, completes_literal] at accepted
    cases value <;> simp_all [Json.same]
  · cases tagged

theorem lacks_spec (apart : lacks others otherOpen fields = true) {result' : Json}
    (completes : Completes (.record fields isOpen) value result) :
    ¬ Completes (.record others otherOpen) value result' := by
  intro also
  obtain ⟨entries, results, rfl, -, required, -⟩ := completes_record.mp completes
  obtain ⟨_, others', same, each, -⟩ := completes_record.mp also
  cases same
  rw [lacks, Bool.and_eq_true, Bool.not_eq_true', List.any_eq_true] at apart
  obtain ⟨closed, name, needed, unknown⟩ := apart
  obtain ⟨field, member, named⟩ := List.mem_filterMap.mp needed
  split at named
  · rename_i presence
    cases named
    obtain ⟨value, inside⟩ := exists_entry (required field member presence)
    obtain ⟨result, -, -, accepted⟩ := exists_of_forall₂ each inside
    have absent : others.find? (fun other => other.name == field.name) = none := by
      refine List.find?_eq_none.mpr fun other declared same => ?_
      have known : field.name ∈ others.map Field.name :=
        List.mem_map.mpr ⟨other, declared, eq_of_beq same⟩
      simp [known] at unknown
    rw [absent] at accepted
    rw [accepted.1] at closed
    cases closed
  · cases named

theorem tagsDiffer_spec (distinct : distinctNames fields = true) (distinct' : distinctNames others = true)
    (apart : tagsDiffer fields others = true) {result' : Json}
    (completes : Completes (.record fields isOpen) value result) :
    ¬ Completes (.record others otherOpen) value result' := by
  intro also
  obtain ⟨entries, -, rfl, -⟩ := completes_record.mp completes
  simp only [tagsDiffer, List.any_eq_true, Bool.and_eq_true, beq_iff_eq, bne_iff_ne] at apart
  obtain ⟨⟨name, text⟩, tag, ⟨_, other⟩, otherTag, rfl, different⟩ := apart
  obtain ⟨present, own⟩ := text_of_completes distinct completes tag
  obtain ⟨-, foreign⟩ := text_of_completes distinct' also otherTag
  obtain ⟨value, inside⟩ := exists_entry present
  have same := (own value inside).symm.trans (foreign value inside)
  exact different (Json.str.inj same)

end Record

/-! ### Regular shapes -/

/-- A default is accepted as it is. -/
def settledDefault (shape : Shape) : Presence → Bool
  | .default value => (check shape "" value).fits && (check shape "" value).value == value
  | _ => true

mutual

/-- Alternatives change nothing or exclude each other, the fields of a record have different
names, its defaults are accepted as they are, and keyed-by mappings lead to values that are
not changed. -/
def regular : Shape → Bool
  | .oneOf alternatives => rigidAll alternatives || (apart alternatives && regularAll alternatives)
  | .list inner => regular inner
  | .map inner => regular inner
  | .record fields _ => distinctNames fields && regularFields fields
  | .keyedBy _ inner => rigid inner
  | _ => true
termination_by structural shape => shape

def regularAll : List Shape → Bool
  | [] => true
  | shape :: rest => regular shape && regularAll rest
termination_by structural shapes => shapes

def regularFields : List Field → Bool
  | [] => true
  | .mk _ shape presence :: rest => regular shape && settledDefault shape presence && regularFields rest
termination_by structural fields => fields

end

theorem settled_of_default {shape : Shape} (checked : settledDefault shape (.default value) = true) :
    Settled shape value := by
  rw [settledDefault, Bool.and_eq_true, beq_iff_eq, Checked.fits_iff] at checked
  rw [checked.2] at checked
  exact check_ok_iff.mp checked.1

theorem regularAll_iff {shapes : List Shape} : regularAll shapes = true ↔ ∀ shape ∈ shapes, shape.regular = true := by
  induction shapes with
  | nil => simp [regularAll]
  | cons first rest ih => rw [regularAll, Bool.and_eq_true, ih, List.forall_mem_cons]

theorem distinct_of_regular {fields : List Field} {isOpen : Bool}
    (regular : (Shape.record fields isOpen).regular = true) : distinctNames fields = true := by
  rw [Shape.regular, Bool.and_eq_true] at regular
  exact regular.1

/-- Regular shapes that are visibly separate accept no value both. -/
theorem separate_spec {a b : Shape} (regularA : a.regular = true) (regularB : b.regular = true)
    (apart : separate a b = true) {other : Json} (completes : Completes a value result) :
    ¬ Completes b value other := by
  intro also
  unfold separate at apart
  split at apart
  · rw [Bool.or_eq_true, Bool.or_eq_true] at apart
    rcases apart with (differ | missing) | missing
    · exact tagsDiffer_spec (distinct_of_regular regularA) (distinct_of_regular regularB) differ completes also
    · exact lacks_spec missing completes also
    · exact lacks_spec missing also completes
  · obtain ⟨rfl, -⟩ := completes_null.mp completes
    obtain ⟨_, _, same, -⟩ := completes_record.mp also
    cases same
  · obtain ⟨rfl, -⟩ := completes_null.mp also
    obtain ⟨_, _, same, -⟩ := completes_record.mp completes
    cases same
  · cases apart

/-- Of alternatives that exclude each other any one may accept a value. -/
theorem completes_oneOf_of_mem {alternatives : List Shape} (apart : apart alternatives = true)
    (regular : ∀ shape ∈ alternatives, shape.regular = true) {shape : Shape}
    (member : shape ∈ alternatives) (completes : Completes shape value result) :
    Completes (.oneOf alternatives) value result := by
  obtain ⟨before, after, rfl⟩ := List.append_of_mem member
  refine completes_oneOf.mpr ⟨before, shape, after, rfl, completes, fun other earlier result also => ?_⟩
  rw [Shape.apart, decide_eq_true_eq, List.pairwise_append] at apart
  have apart := apart.2.2 other earlier shape List.mem_cons_self
  exact separate_spec (regular other (List.mem_append_left _ earlier)) (regular shape member) apart
    also completes

theorem settled_of_rigid {shape : Shape} (stiff : shape.rigid = true)
    (completes : Completes shape value result) : Settled shape result := by
  have same := eq_of_rigid shape stiff value result completes
  rwa [← same] at completes

theorem settled_defaults {fields : List Field} (regular : regularFields fields = true) :
    ∀ field ∈ fields, ∀ value, field.presence = .default value → Settled field.shape value := by
  induction fields with
  | nil => nofun
  | cons first rest ih =>
    obtain ⟨name, shape, presence⟩ := first
    rw [regularFields, Bool.and_eq_true, Bool.and_eq_true] at regular
    refine List.forall_mem_cons.mpr ⟨fun value given => ?_, ih regular.2⟩
    simp only [Field.presence] at given
    subst given
    exact settled_of_default regular.1.2

theorem settled_record_of_completes {fields : List Field} {isOpen : Bool}
    (distinct : distinctNames fields = true)
    (again : ∀ field ∈ fields, ∀ value result, Completes field.shape value result → Settled field.shape result)
    (defaults : ∀ field ∈ fields, ∀ value, field.presence = .default value → Settled field.shape value)
    (completes : Completes (.record fields isOpen) value result) : Settled (.record fields isOpen) result := by
  obtain ⟨entries, results, rfl, each, required, rfl⟩ := completes_record.mp completes
  have keys := keys_of_entryCompletes each
  refine settled_record.mpr ⟨_, rfl, Fields.nodup_ofList _, fun key value found => ?_, ?_⟩
  · rcases List.mem_append.mp (Fields.mem_ofList (Fields.mem_of_get? found)) with inside | inside
    · obtain ⟨entry, -, same, accepted⟩ := exists_of_forall₂ each.flip inside
      simp only at same accepted
      subst same
      rw [Fits]
      cases declared : fields.find? fun field => field.name == entry.1 with
      | none =>
        simp only [declared] at accepted
        exact accepted.1
      | some field =>
        simp only [declared] at accepted
        exact again field (List.mem_of_find?_eq_some declared) _ _ accepted
    · obtain ⟨-, field, member, rfl, presence⟩ := mem_absentDefaults.mp inside
      rw [Fits, find?_of_distinct distinct member]
      exact defaults field member value presence
  · intro field member needed
    rw [Fields.contains_iff_mem_keys, Fields.mem_keys_ofList]
    by_cases present : entries.contains field.name = true
    · obtain ⟨value, inside⟩ := exists_entry present
      obtain ⟨result, member, same, -⟩ := exists_of_forall₂ each inside
      exact List.mem_map.mpr ⟨result, List.mem_append_left _ member, same⟩
    · cases presence : field.presence with
      | required => exact absurd (required field member presence) present
      | optional => exact absurd presence needed
      | default value =>
        have filled := mem_absentDefaults.mpr
          ⟨Bool.eq_false_iff.mpr present, field, member, rfl, presence⟩
        exact List.mem_map.mpr ⟨_, List.mem_append_right _ filled, rfl⟩

mutual

/-- A regular shape accepts its results as they are. -/
theorem settled_of_completes : ∀ shape : Shape, shape.regular = true →
    ∀ value result, Completes shape value result → Settled shape result
  | .any, _, value, result, completes => completes_any.mpr rfl
  | .null, _, value, result, completes => settled_of_rigid rfl completes
  | .bool, _, value, result, completes => settled_of_rigid rfl completes
  | .int, _, value, result, completes => settled_of_rigid rfl completes
  | .number, _, value, result, completes => settled_of_rigid rfl completes
  | .str, _, value, result, completes => settled_of_rigid rfl completes
  | .literal _, _, value, result, completes => settled_of_rigid rfl completes
  | .oneOf alternatives, regular, value, result, completes => by
    rw [Shape.regular, Bool.or_eq_true, Bool.and_eq_true] at regular
    rcases regular with stiff | ⟨apart, regular⟩
    · exact settled_of_rigid (by rwa [rigid]) completes
    · obtain ⟨before, shape, after, rfl, completes, -⟩ := completes_oneOf.mp completes
      have settled := settled_of_all _ regular shape (by simp) value result completes
      exact completes_oneOf_of_mem apart (regularAll_iff.mp regular) (by simp) settled
  | .list inner, regular, value, result, completes => by
    rw [Shape.regular] at regular
    obtain ⟨items, results, rfl, rfl, each⟩ := completes_list.mp completes
    refine completes_list.mpr ⟨results, results, rfl, rfl, List.forall₂_same.mpr fun item member => ?_⟩
    obtain ⟨value, -, completes⟩ := exists_of_forall₂ each.flip member
    exact settled_of_completes inner regular value item completes
  | .map inner, regular, value, result, completes => by
    rw [Shape.regular] at regular
    obtain ⟨entries, results, rfl, rfl, each⟩ := completes_map.mp completes
    refine completes_map.mpr ⟨results, results, rfl, rfl, List.forall₂_same.mpr fun entry member => ?_⟩
    obtain ⟨value, -, -, completes⟩ := exists_of_forall₂ each.flip member
    exact ⟨rfl, settled_of_completes inner regular value.2 entry.2 completes⟩
  | .record fields isOpen, regular, value, result, completes => by
    rw [Shape.regular, Bool.and_eq_true] at regular
    exact settled_record_of_completes regular.1 (settled_of_fields fields regular.2)
      (settled_defaults regular.2) completes
  | .keyedBy discriminants inner, regular, value, result, completes => by
    rw [Shape.regular] at regular
    exact settled_of_rigid (by rwa [rigid]) completes

theorem settled_of_all : ∀ shapes : List Shape, regularAll shapes = true →
    ∀ shape ∈ shapes, ∀ value result, Completes shape value result → Settled shape result
  | [], _ => nofun
  | first :: rest, regular => by
    rw [regularAll, Bool.and_eq_true] at regular
    exact List.forall_mem_cons.mpr ⟨settled_of_completes first regular.1, settled_of_all rest regular.2⟩

theorem settled_of_fields : ∀ fields : List Field, regularFields fields = true →
    ∀ field ∈ fields, ∀ value result, Completes field.shape value result → Settled field.shape result
  | [], _ => nofun
  | .mk _ shape _ :: rest, regular => by
    rw [regularFields, Bool.and_eq_true, Bool.and_eq_true] at regular
    exact List.forall_mem_cons.mpr
      ⟨settled_of_completes shape regular.1.1, settled_of_fields rest regular.2⟩

end

end Shape

end TaskPlan
