import TaskPlan.Proofs.Shape.Filled

/-!
# Validating again

The check of a value against a shape comes to parts of the value and the shapes that describe
them, and the result has a part at each of these places (`Meets`). If the shape is regular, the
part of the result conforms to the same alternatives as the part of the value and is keyed only
if this is (`Meets.keeps`), and the defaults that are declared at any depth are accepted as they
are (`settled_declared`).
-/

namespace TaskPlan

namespace KeyedBy

/-- Whether a mapping is keyed can be told from its keys. -/
theorem unkeyed_iff_keys {entries : Fields} :
    parts? (.obj entries) = none ↔ ∀ key, entries.keys = [key] → Text.after? marker key = none := by
  match entries with
  | [] => simp [Fields.keys, parts?]
  | [(key, content)] => simp [Fields.keys, parts?]
  | _ :: _ :: _ => simp [Fields.keys, parts?]

end KeyedBy

namespace Shape

/-- The check of a value against a shape comes to a part of the value and the inner shape that
describes it, with another value at the same place of the result. -/
inductive Meets : (shape : Shape) → (value result : Json) → (inner : Shape) → (part other : Json) → Prop where
  | whole {shape : Shape} {value result : Json} : Meets shape value result shape value result
  /-- of several alternatives the first one to which the value conforms -/
  | alternative {before after : List Shape} {shape inner : Shape} {value result part other : Json}
      (earlier : ∀ shape ∈ before, ¬ Conforms shape value) (conforms : Conforms shape value)
      (inside : Meets shape value result inner part other) :
      Meets (.oneOf (before ++ shape :: after)) value result inner part other
  | item {shape inner : Shape} {items results : List Json} {i : Nat} {value result part other : Json}
      (here : items[i]? = some value) (there : results[i]? = some result)
      (inside : Meets shape value result inner part other) :
      Meets (.list shape) (.arr items) (.arr results) inner part other
  | entry {shape inner : Shape} {entries results : Fields} {key : String} {value result part other : Json}
      (here : entries.get? key = some value) (there : results.get? key = some result)
      (inside : Meets shape value result inner part other) :
      Meets (.map shape) (.obj entries) (.obj results) inner part other
  | field {fields : List Field} {isOpen : Bool} {field : Field} {inner : Shape}
      {entries results : Fields} {key : String} {value result part other : Json}
      (declared : fields.find? (fun field => field.name == key) = some field)
      (here : entries.get? key = some value) (there : results.get? key = some result)
      (inside : Meets field.shape value result inner part other) :
      Meets (.record fields isOpen) (.obj entries) (.obj results) inner part other
  | plain {discriminants : List String} {shape inner : Shape} {value result part other : Json}
      (unkeyed : KeyedBy.parts? value = none) (inside : Meets shape value result inner part other) :
      Meets (.keyedBy discriminants shape) value result inner part other
  | keyed {discriminants : List String} {shape inner : Shape} {name key : String}
      {entries results : Fields} {value result part other : Json}
      (here : entries.get? key = some value) (there : results.get? key = some result)
      (inside : Meets (.keyedBy discriminants shape) value result inner part other) :
      Meets (.keyedBy discriminants shape) (.obj [(KeyedBy.marker ++ name, .obj entries)])
        (.obj [(KeyedBy.marker ++ name, .obj results)]) inner part other

variable {shape inner : Shape} {value result part other : Json}

/-! ### Results at the same places -/

theorem getElem?_of_forall₂ {rel : Json → Json → Prop} {items results : List Json}
    (each : List.Forall₂ rel items results) {i : Nat} (here : items[i]? = some value)
    (there : results[i]? = some result) : rel value result := by
  obtain ⟨inside, rfl⟩ := List.getElem?_eq_some_iff.mp here
  obtain ⟨insideToo, rfl⟩ := List.getElem?_eq_some_iff.mp there
  exact each.get inside insideToo

theorem get?_of_entrywise {rel : Json → Json → Prop} {entries results : Fields}
    (each : Entrywise rel entries results) {key : String} (here : entries.get? key = some value)
    (there : results.get? key = some result) : rel value result := by
  induction each with
  | nil => cases here
  | @cons entry result' _ _ first _ ih =>
    obtain ⟨_, v⟩ := entry
    obtain ⟨k, w⟩ := result'
    obtain ⟨rfl, first⟩ := first
    rw [Fields.get?] at here there
    by_cases same : k = key
    · rw [if_pos same] at here there
      cases here
      cases there
      exact first
    · rw [if_neg same] at here there
      exact ih here there

/-- What a record gives for an entry of a value that has no other entry for the key. -/
theorem completes_field {fields : List Field} {isOpen : Bool} {entries results : Fields} {field : Field}
    {key : String} (completes : Completes (.record fields isOpen) (.obj entries) (.obj results))
    (distinct : entries.keys.Nodup) (declared : fields.find? (fun field => field.name == key) = some field)
    (here : entries.get? key = some value) (there : results.get? key = some result) :
    Completes field.shape value result := by
  obtain ⟨_, checked, same, each, -, results_eq⟩ := completes_record.mp completes
  cases same
  cases results_eq
  have member : (key, result) ∈ checked ++ absentDefaults fields entries := Fields.mem_ofList (Fields.mem_of_get? there)
  rcases List.mem_append.mp member with inside | added
  · obtain ⟨⟨_, v⟩, member, rfl, accepted⟩ := exists_of_forall₂ each.flip inside
    have found := (Fields.mem_iff_get? distinct).mp member
    rw [here] at found
    cases found
    rwa [declared] at accepted
  · have absent := (mem_absentDefaults.mp added).1
    rw [Fields.contains, here] at absent
    cases absent

theorem Completes.unique (completes : Completes shape value result) (also : Completes shape value other) :
    result = other :=
  (Checked.mk_eq_ok.mp ((completes "").symm.trans (also ""))).1

/-- Only the first alternative to which a value conforms gives a result for it. -/
theorem completes_alternative {before after : List Shape}
    (completes : Completes (.oneOf (before ++ shape :: after)) value result)
    (earlier : ∀ shape ∈ before, ¬ Conforms shape value) (conforms : Conforms shape value) :
    Completes shape value result := by
  obtain ⟨other, accepted⟩ := conforms_iff.mp conforms
  have chosen : Completes (.oneOf (before ++ shape :: after)) value other := by
    refine completes_oneOf.mpr ⟨before, shape, after, rfl, accepted, fun other member result also => ?_⟩
    exact earlier other member (conforms_iff.mpr ⟨result, also⟩)
  rwa [completes.unique chosen]

theorem completes_plain {discriminants : List String} (unkeyed : KeyedBy.parts? value = none)
    (completes : Completes (.keyedBy discriminants shape) value result) : Completes shape value result :=
  (keyedGives_of_unkeyed unkeyed).mp (completes_keyedBy.mp completes)

theorem completes_keyed {discriminants : List String} {name : String} {entries results : Fields}
    (completes : Completes (.keyedBy discriminants shape) (.obj [(KeyedBy.marker ++ name, .obj entries)])
      (.obj [(KeyedBy.marker ++ name, .obj results)])) :
    Entrywise (Completes (.keyedBy discriminants shape)) entries results := by
  have marked : Text.after? KeyedBy.marker (KeyedBy.marker ++ name) = some name := Text.after?_eq_some.mpr rfl
  have gives := completes_keyedBy.mp completes
  cases gives with
  | plain unkeyed _ => simp [marked, KeyedBy.parts?] at unkeyed
  | keyed _ _ alternatives =>
    have each : Entrywise (KeyedGives discriminants (check shape)) entries results :=
      alternatives.elim (fun _ _ => .plain) fun _ allowed _ _ _ marked each =>
        .keyed marked allowed (alternativesGive_of_entrywise each)
    exact each.imp fun _ _ here => ⟨here.1, completes_keyedBy.mpr here.2⟩

/-- The part of a result that a check comes to is the result for the part of the value. -/
theorem Meets.completes (meets : Meets shape value result inner part other) (distinct : value.Distinct)
    (completes : Completes shape value result) : part.Distinct ∧ Completes inner part other := by
  induction meets with
  | whole => exact ⟨distinct, completes⟩
  | alternative earlier conforms _ ih => exact ih distinct (completes_alternative completes earlier conforms)
  | item here there _ ih =>
    obtain ⟨_, _, same, same', each⟩ := completes_list.mp completes
    cases same
    cases same'
    exact ih (Json.distinct_arr.mp distinct _ (List.mem_of_getElem? here)) (getElem?_of_forall₂ each here there)
  | entry here there _ ih =>
    obtain ⟨_, _, same, same', each⟩ := completes_map.mp completes
    cases same
    cases same'
    exact ih ((Json.distinct_obj.mp distinct).2 _ (Fields.mem_of_get? here)) (get?_of_entrywise each here there)
  | field declared here there _ ih =>
    obtain ⟨keys, inside⟩ := Json.distinct_obj.mp distinct
    exact ih (inside _ (Fields.mem_of_get? here)) (completes_field completes keys declared here there)
  | plain unkeyed _ ih => exact ih distinct (completes_plain unkeyed completes)
  | keyed here there _ ih =>
    have alternatives := (Json.distinct_obj.mp distinct).2 _ List.mem_cons_self
    have inside := (Json.distinct_obj.mp alternatives).2 _ (Fields.mem_of_get? here)
    exact ih inside (get?_of_entrywise (completes_keyed completes) here there)

/-! ### Parts of regular shapes -/

theorem rigid_of_mem {shapes : List Shape} (stiff : rigidAll shapes = true) :
    ∀ shape ∈ shapes, shape.rigid = true := by
  induction shapes with
  | nil => nofun
  | cons first rest ih =>
    rw [rigidAll, Bool.and_eq_true] at stiff
    exact List.forall_mem_cons.mpr ⟨stiff.1, ih stiff.2⟩

theorem regular_of_rigid : ∀ shape : Shape, shape.rigid = true → shape.regular = true
  | .any, _ | .null, _ | .bool, _ | .int, _ | .number, _ | .str, _ | .literal _, _ => rfl
  | .oneOf _, stiff => by
    rw [rigid] at stiff
    rw [regular, stiff, Bool.true_or]
  | .list inner, stiff => by
    rw [rigid] at stiff
    rw [regular, regular_of_rigid inner stiff]
  | .map inner, stiff => by
    rw [rigid] at stiff
    rw [regular, regular_of_rigid inner stiff]
  | .record _ _, stiff => by simp [rigid] at stiff
  | .keyedBy _ _, stiff => by
    rw [rigid] at stiff
    rw [regular, stiff]

theorem regular_alternatives {alternatives : List Shape} (regular : (Shape.oneOf alternatives).regular = true) :
    ∀ shape ∈ alternatives, shape.regular = true := by
  rw [Shape.regular, Bool.or_eq_true, Bool.and_eq_true] at regular
  rcases regular with stiff | ⟨-, regular⟩
  · exact fun shape member => regular_of_rigid shape (rigid_of_mem stiff shape member)
  · exact regularAll_iff.mp regular

theorem regular_fields {fields : List Field} (regular : regularFields fields = true) :
    ∀ field ∈ fields, field.shape.regular = true := by
  induction fields with
  | nil => nofun
  | cons first rest ih =>
    obtain ⟨name, shape, presence⟩ := first
    rw [regularFields, Bool.and_eq_true, Bool.and_eq_true] at regular
    exact List.forall_mem_cons.mpr ⟨regular.1.1, ih regular.2⟩

theorem Meets.regular (meets : Meets shape value result inner part other)
    (regular : shape.regular = true) : inner.regular = true := by
  induction meets with
  | whole => exact regular
  | alternative _ _ _ ih => exact ih (regular_alternatives regular _ (by simp))
  | item _ _ _ ih => exact ih (by rwa [Shape.regular] at regular)
  | entry _ _ _ ih => exact ih (by rwa [Shape.regular] at regular)
  | field declared _ _ _ ih =>
    rw [Shape.regular, Bool.and_eq_true] at regular
    exact ih (regular_fields regular.2 _ (List.mem_of_find?_eq_some declared))
  | plain _ _ ih => exact ih (regular_of_rigid _ (by rwa [Shape.regular] at regular))
  | keyed _ _ _ ih => exact ih regular

/-! ### Alternatives -/

/-- At most one of several regular alternatives that exclude each other accepts a value. -/
theorem eq_of_apart {alternatives : List Shape} (apart : apart alternatives = true)
    (regular : ∀ shape ∈ alternatives, shape.regular = true) {a b : Shape} (memberA : a ∈ alternatives)
    (memberB : b ∈ alternatives) (conformsA : Conforms a value) (conformsB : Conforms b value) : a = b := by
  obtain ⟨resultA, completesA⟩ := conforms_iff.mp conformsA
  obtain ⟨resultB, completesB⟩ := conforms_iff.mp conformsB
  rw [Shape.apart, decide_eq_true_eq] at apart
  by_contra other
  have pairs : alternatives.Pairwise fun a b => separate a b = true ∨ separate b a = true := apart.imp .inl
  have : Std.Symm fun a b : Shape => separate a b = true ∨ separate b a = true := ⟨fun _ _ => Or.symm⟩
  rcases pairs.forall memberA memberB other with different | different
  · exact separate_spec (regular a memberA) (regular b memberB) different completesA completesB
  · exact separate_spec (regular b memberB) (regular a memberA) different completesB completesA

/-- The result conforms to the alternatives to which the value conforms. -/
theorem conforms_alternative_iff {alternatives : List Shape}
    (regular : (Shape.oneOf alternatives).regular = true) (completes : Completes (.oneOf alternatives) value result)
    {alternative : Shape} (member : alternative ∈ alternatives) :
    Conforms alternative value ↔ Conforms alternative result := by
  have each := regular_alternatives regular
  rw [Shape.regular, Bool.or_eq_true, Bool.and_eq_true] at regular
  rcases regular with stiff | ⟨apart, -⟩
  · rw [eq_of_rigid (.oneOf alternatives) (by rwa [rigid]) value result completes]
  · obtain ⟨before, chosen, after, split, accepted, -⟩ := completes_oneOf.mp completes
    have chosenMember : chosen ∈ alternatives := by simp [split]
    have first : Conforms chosen value := conforms_iff.mpr ⟨result, accepted⟩
    have again : Conforms chosen result :=
      conforms_iff.mpr ⟨result, settled_of_completes chosen (each chosen chosenMember) value result accepted⟩
    constructor
    · intro conforms
      rwa [eq_of_apart apart each member chosenMember conforms first]
    · intro conforms
      rwa [eq_of_apart apart each member chosenMember conforms again]

/-! ### Declared fields -/

mutual

/-- The fields of all records in the shape, at any depth. -/
def declared : Shape → List Field
  | .oneOf alternatives => declaredAll alternatives
  | .list inner => declared inner
  | .map inner => declared inner
  | .record fields _ => declaredFields fields
  | .keyedBy _ inner => declared inner
  | _ => []
termination_by structural shape => shape

def declaredAll : List Shape → List Field
  | [] => []
  | shape :: rest => declared shape ++ declaredAll rest
termination_by structural shapes => shapes

def declaredFields : List Field → List Field
  | [] => []
  | .mk name shape presence :: rest => .mk name shape presence :: (declared shape ++ declaredFields rest)
termination_by structural fields => fields

end

theorem mem_declaredAll {shapes : List Shape} {field : Field} :
    field ∈ declaredAll shapes ↔ ∃ shape ∈ shapes, field ∈ shape.declared := by
  induction shapes with
  | nil => simp [declaredAll]
  | cons first rest ih => simp [declaredAll, ih]

theorem mem_declaredFields {fields : List Field} {field : Field} :
    field ∈ declaredFields fields ↔ ∃ outer ∈ fields, field = outer ∨ field ∈ outer.shape.declared := by
  induction fields with
  | nil => simp [declaredFields]
  | cons first rest ih =>
    obtain ⟨name, shape, presence⟩ := first
    simp [declaredFields, ih, Field.shape, or_assoc]

theorem Meets.declared (meets : Meets shape value result inner part other) :
    ∀ field ∈ inner.declared, field ∈ shape.declared := by
  induction meets with
  | whole => exact fun _ member => member
  | @alternative before after shape _ _ _ _ _ _ _ _ ih =>
    intro field member
    exact mem_declaredAll.mpr ⟨shape, by simp, ih field member⟩
  | item _ _ _ ih => exact ih
  | entry _ _ _ ih => exact ih
  | @field fields _ outer _ _ _ _ _ _ _ _ declared _ _ _ ih =>
    intro field member
    exact mem_declaredFields.mpr ⟨outer, List.mem_of_find?_eq_some declared, .inr (ih field member)⟩
  | plain _ _ ih => exact ih
  | keyed _ _ _ ih => exact ih

/-- The defaults in a regular shape are accepted as they are. -/
theorem settled_declared (shape : Shape) : shape.regular = true →
    ∀ field ∈ shape.declared, ∀ default, field.presence = .default default → Settled field.shape default := by
  induction shape using induction_on_parts with
  | any => nofun
  | null => nofun
  | bool => nofun
  | int => nofun
  | number => nofun
  | str => nofun
  | literal => nofun
  | oneOf alternatives ih =>
    intro regular field member
    obtain ⟨shape, alternative, inside⟩ := mem_declaredAll.mp member
    exact ih shape alternative (regular_alternatives regular shape alternative) field inside
  | list inner ih => exact fun regular => ih (by rwa [Shape.regular] at regular)
  | map inner ih => exact fun regular => ih (by rwa [Shape.regular] at regular)
  | record fields isOpen ih =>
    intro regular field member
    rw [Shape.regular, Bool.and_eq_true] at regular
    obtain ⟨outer, own, rfl | inside⟩ := mem_declaredFields.mp member
    · exact settled_defaults regular.2 field own
    · exact ih outer own (regular_fields regular.2 outer own) field inside
  | keyedBy discriminants inner ih => exact fun regular => ih (regular_of_rigid inner (by rwa [Shape.regular] at regular))

/-! ### Keyed-by mappings -/

/-- No field is declared under a key that is marked. -/
def unmarked (shape : Shape) : Prop := ∀ field ∈ shape.declared, Text.after? KeyedBy.marker field.name = none

instance (shape : Shape) : Decidable shape.unmarked := List.decidableBAll _ _

theorem unkeyed_of_keys {entries results : Fields} (keys : results.keys = entries.keys)
    (unkeyed : KeyedBy.parts? (.obj entries) = none) : KeyedBy.parts? (.obj results) = none := by
  rw [KeyedBy.unkeyed_iff_keys, keys]
  exact KeyedBy.unkeyed_iff_keys.mp unkeyed

/-- The entries of a record and the defaults after them make no keyed-by mapping of one that
was none. -/
theorem unkeyed_record {fields : List Field} {isOpen : Bool} {entries results : Fields}
    (plain : unmarked (.record fields isOpen)) (keys : results.keys = entries.keys)
    (distinct : entries.keys.Nodup) (unkeyed : KeyedBy.parts? (.obj entries) = none) :
    KeyedBy.parts? (.obj (Fields.ofList (results ++ absentDefaults fields entries))) = none := by
  rw [ofList_absentDefaults keys distinct]
  refine KeyedBy.unkeyed_iff_keys.mpr fun key single => ?_
  rw [Fields.keys, List.map_append, List.append_eq_singleton_iff] at single
  rcases single with ⟨-, filled⟩ | ⟨given, -⟩
  · have there : key ∈ (Fields.ofList (absentDefaults fields entries)).keys := by simp [Fields.keys, filled]
    obtain ⟨⟨_, default⟩, member, rfl⟩ := List.mem_map.mp (Fields.mem_keys_ofList.mp there)
    obtain ⟨-, field, own, rfl, -⟩ := mem_absentDefaults.mp member
    exact plain field (mem_declaredFields.mpr ⟨field, own, .inl rfl⟩)
  · exact KeyedBy.unkeyed_iff_keys.mp unkeyed key (keys.symm.trans given)

/-- A value that is not keyed has a result that is not. -/
theorem unkeyed_of_filled {shape : Shape} {value result : Json} : Filled shape value result →
    shape.unmarked → value.Distinct → KeyedBy.parts? value = none → KeyedBy.parts? result = none
  | .atom _, _, _, unkeyed => unkeyed
  | .oneOf _ _ filled, plain, distinct, unkeyed =>
    unkeyed_of_filled filled
      (fun field inside => plain field (mem_declaredAll.mpr ⟨_, by simp, inside⟩)) distinct unkeyed
  | .list _, _, _, _ => rfl
  | .map each, _, _, unkeyed => unkeyed_of_keys (keys_of_filledEntries each) unkeyed
  | .record each, plain, distinct, unkeyed =>
    unkeyed_record plain (keys_of_filledEntries each) (Json.distinct_obj.mp distinct).1 unkeyed
  | .plain _ filled, plain, distinct, unkeyed => unkeyed_of_filled filled plain distinct unkeyed
  | .keyed _, _, _, unkeyed => by
    rw [KeyedBy.unkeyed_iff_keys] at unkeyed ⊢
    exact unkeyed

/-- What stands at the same places of a value and the result that a regular shape gives for it. -/
theorem Meets.keeps (meets : Meets shape value result inner part other) (regular : shape.regular = true)
    (plain : shape.unmarked) (distinct : value.Distinct) (completes : Completes shape value result) :
    Completes inner part other ∧
      (∀ alternatives, inner = .oneOf alternatives → ∀ alternative ∈ alternatives,
        Conforms alternative part ↔ Conforms alternative other) ∧
      (KeyedBy.parts? part = none → KeyedBy.parts? other = none) := by
  obtain ⟨distinct, accepted⟩ := meets.completes distinct completes
  refine ⟨accepted, ?_, ?_⟩
  · rintro alternatives rfl alternative member
    exact conforms_alternative_iff (meets.regular regular) accepted member
  · have inside : inner.unmarked := fun field member => plain field (meets.declared field member)
    exact unkeyed_of_filled (filled_of_completes inner part other accepted) inside distinct

end Shape

end TaskPlan
