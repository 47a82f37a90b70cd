import TaskPlan.Proofs.Shape.Completes

/-!
# Values of a shape

Which values are of a shape can be said without a check: a value conforms to alternatives
if it conforms to one of them, to a list or a mapping if all its items or entries do, to a
record if its entries are those of declared fields or tolerated and no required one is
missing, and to a shape that may be keyed if all its alternatives do (`Conforms`). A shape
accepts exactly the values that conform to it (`conforms_iff`).
-/

namespace TaskPlan

namespace KeyedBy

/-- A mapping with a single entry, whose key is marked, is keyed, and nothing else is. -/
theorem unkeyed_iff {value : Json} :
    KeyedBy.parts? value = none ↔ ∀ name content, value ≠ .obj [(marker ++ name, content)] := by
  constructor
  · rintro unkeyed name content rfl
    have marked : Text.after? marker (marker ++ name) = some name := Text.after?_eq_some.mpr rfl
    simp [marked, KeyedBy.parts?] at unkeyed
  · intro other
    unfold KeyedBy.parts?
    split
    · rename_i key content
      rw [Option.map_eq_none_iff, Option.eq_none_iff_forall_ne_some]
      intro name marked
      exact other name content (by rw [Text.after?_eq_some.mp marked])
    · rfl

end KeyedBy

namespace Shape

/-- To show something of all shapes, show it of each kind from what holds of its parts. -/
@[elab_as_elim]
theorem induction_on_parts {motive : Shape → Prop} (any : motive .any) (null : motive .null)
    (bool : motive .bool) (int : motive .int) (number : motive .number) (str : motive .str)
    (literal : ∀ expected, motive (.literal expected))
    (oneOf : ∀ alternatives, (∀ shape ∈ alternatives, motive shape) → motive (.oneOf alternatives))
    (list : ∀ inner, motive inner → motive (.list inner))
    (map : ∀ inner, motive inner → motive (.map inner))
    (record : ∀ fields isOpen, (∀ field ∈ fields, motive field.shape) → motive (.record fields isOpen))
    (keyedBy : ∀ discriminants inner, motive inner → motive (.keyedBy discriminants inner))
    (shape : Shape) : motive shape :=
  Shape.rec (motive_1 := motive) (motive_2 := fun field => motive field.shape)
    (motive_3 := fun shapes => ∀ shape ∈ shapes, motive shape)
    (motive_4 := fun fields => ∀ field ∈ fields, motive field.shape)
    any null bool int number str literal oneOf list map record keyedBy (fun _ _ _ holds => holds)
    (List.forall_mem_nil _) (fun _ _ here later => List.forall_mem_cons.mpr ⟨here, later⟩)
    (List.forall_mem_nil _) (fun _ _ here later => List.forall_mem_cons.mpr ⟨here, later⟩) shape

/-- The value is of the shape. -/
inductive Conforms : Shape → Json → Prop where
  | any (value : Json) : Conforms .any value
  | null : Conforms .null .null
  | bool (value : Bool) : Conforms .bool (.bool value)
  | int {value : Int} (fits : isWordInt value = true) : Conforms .int (.num (.int value fits))
  | number (value : Number) : Conforms .number (.num value)
  | str (value : String) : Conforms .str (.str value)
  | literal {expected value : Json} (same : value.same expected = true) : Conforms (.literal expected) value
  | oneOf {alternatives : List Shape} {shape : Shape} {value : Json} (member : shape ∈ alternatives)
      (conforms : Conforms shape value) : Conforms (.oneOf alternatives) value
  | list {inner : Shape} {items : List Json} (each : ∀ item ∈ items, Conforms inner item) :
      Conforms (.list inner) (.arr items)
  | map {inner : Shape} {entries : Fields} (each : ∀ entry ∈ entries, Conforms inner entry.2) :
      Conforms (.map inner) (.obj entries)
  /-- The first field that is declared with the name of an entry has the shape of its value. -/
  | record {fields : List Field} {isOpen : Bool} {entries : Fields}
      (declared : ∀ entry ∈ entries, ∀ field,
        fields.find? (fun field => field.name == entry.1) = some field → Conforms field.shape entry.2)
      (extra : ∀ entry ∈ entries,
        fields.find? (fun field => field.name == entry.1) = none → isOpen = true)
      (present : ∀ field ∈ fields, field.presence = .required → entries.contains field.name = true) :
      Conforms (.record fields isOpen) (.obj entries)
  | plain {discriminants : List String} {inner : Shape} {value : Json}
      (unkeyed : ∀ name content, value ≠ .obj [(KeyedBy.marker ++ name, content)])
      (conforms : Conforms inner value) : Conforms (.keyedBy discriminants inner) value
  | keyed {discriminants : List String} {inner : Shape} {name : String} {alternatives : Fields}
      (allowed : name ∈ discriminants)
      (each : ∀ entry ∈ alternatives, Conforms (.keyedBy discriminants inner) entry.2) :
      Conforms (.keyedBy discriminants inner) (.obj [(KeyedBy.marker ++ name, .obj alternatives)])

variable {value result : Json}

/-! ### What is accepted conforms -/

theorem conforms_of_completes (shape : Shape) :
    ∀ value result, Completes shape value result → Conforms shape value := by
  induction shape using induction_on_parts with
  | any => exact fun value _ _ => .any value
  | null =>
    intro value result completes
    rw [(completes_null.mp completes).1]
    exact .null
  | bool =>
    intro value result completes
    have kind := (completes_bool.mp completes).1
    cases value <;> first | exact .bool _ | cases kind
  | int =>
    intro value result completes
    have kind := (completes_int.mp completes).1
    unfold isInt at kind
    split at kind
    · exact .int _
    · cases kind
  | number =>
    intro value result completes
    have kind := (completes_number.mp completes).1
    cases value <;> first | exact .number _ | cases kind
  | str =>
    intro value result completes
    have kind := (completes_str.mp completes).1
    cases value <;> first | exact .str _ | cases kind
  | literal expected => exact fun value result completes => .literal (completes_literal.mp completes).1
  | oneOf alternatives ih =>
    intro value result completes
    obtain ⟨before, shape, after, rfl, completes, -⟩ := completes_oneOf.mp completes
    have member : shape ∈ before ++ shape :: after := by simp
    exact .oneOf member (ih shape member value result completes)
  | list inner ih =>
    intro value result completes
    obtain ⟨items, results, rfl, rfl, each⟩ := completes_list.mp completes
    refine .list fun item member => ?_
    obtain ⟨result, -, completes⟩ := exists_of_forall₂ each member
    exact ih item result completes
  | map inner ih =>
    intro value result completes
    obtain ⟨entries, results, rfl, rfl, each⟩ := completes_map.mp completes
    refine .map fun entry member => ?_
    obtain ⟨result, -, -, completes⟩ := exists_of_forall₂ each member
    exact ih entry.2 result.2 completes
  | record fields isOpen ih =>
    intro value result completes
    obtain ⟨entries, results, rfl, each, present, rfl⟩ := completes_record.mp completes
    refine .record (fun entry member field declared => ?_) (fun entry member extra => ?_) present
    · obtain ⟨result, -, -, accepted⟩ := exists_of_forall₂ each member
      rw [declared] at accepted
      exact ih field (List.mem_of_find?_eq_some declared) entry.2 result.2 accepted
    · obtain ⟨result, -, -, accepted⟩ := exists_of_forall₂ each member
      rw [extra] at accepted
      exact accepted.1
  | keyedBy discriminants inner ih =>
    intro value result completes
    refine (completes_keyedBy.mp completes).elim (motive := fun value _ => Conforms _ value) ?_ ?_
    · exact fun value result unkeyed gives =>
        .plain (KeyedBy.unkeyed_iff.mp unkeyed) (ih value result gives)
    · intro name allowed key entries results marked each
      rw [Text.after?_eq_some.mp marked]
      refine .keyed allowed fun entry member => ?_
      obtain ⟨_, -, -, conforms⟩ := exists_of_forall₂ each member
      exact conforms

/-! ### What conforms is accepted -/

theorem exists_entrywise {rel : Json → Json → Prop} {entries : Fields}
    (each : ∀ entry ∈ entries, ∃ result, rel entry.2 result) : ∃ results, Entrywise rel entries results :=
  exists_forall₂ fun entry member => (each entry member).imp' (Prod.mk entry.1) fun _ here => ⟨rfl, here⟩

theorem exists_someCompletes {alternatives : List Shape} {shape : Shape} (member : shape ∈ alternatives)
    (completes : Completes shape value result) : ∃ result, SomeCompletes alternatives value result := by
  induction alternatives with
  | nil => cases member
  | cons first rest ih =>
    by_cases accepted : ∃ result, Completes first value result
    · obtain ⟨result, completes⟩ := accepted
      exact ⟨result, [], first, rest, rfl, completes, List.forall_mem_nil _⟩
    · have refused (result : Json) : ¬ Completes first value result := not_exists.mp accepted result
      have later : shape ∈ rest := by
        rcases List.mem_cons.mp member with rfl | later
        · exact absurd completes (refused result)
        · exact later
      obtain ⟨result, before, other, after, rfl, completes, earlier⟩ := ih later
      exact ⟨result, first :: before, other, after, rfl, completes,
        List.forall_mem_cons.mpr ⟨refused, earlier⟩⟩

theorem alternativesGive_of_entrywise {discriminants : List String} {inner : Checker}
    {entries results : Fields} (each : Entrywise (KeyedGives discriminants inner) entries results) :
    AlternativesGive discriminants inner entries results := by
  induction each with
  | nil => exact .nil
  | @cons entry result _ _ here _ ih =>
    obtain ⟨key, value⟩ := entry
    obtain ⟨_, result⟩ := result
    obtain ⟨rfl, here⟩ := here
    exact .cons here ih

theorem exists_completes_of_conforms {shape : Shape} (conforms : Conforms shape value) :
    ∃ result, Completes shape value result := by
  induction conforms with
  | any value => exact ⟨value, completes_any.mpr rfl⟩
  | null => exact ⟨.null, completes_null.mpr ⟨rfl, rfl⟩⟩
  | bool value => exact ⟨.bool value, completes_bool.mpr ⟨rfl, rfl⟩⟩
  | int fits => exact ⟨_, completes_int.mpr ⟨rfl, rfl⟩⟩
  | number value => exact ⟨.num value, completes_number.mpr ⟨rfl, rfl⟩⟩
  | str value => exact ⟨.str value, completes_str.mpr ⟨rfl, rfl⟩⟩
  | literal same => exact ⟨_, completes_literal.mpr ⟨same, rfl⟩⟩
  | oneOf member _ ih =>
    obtain ⟨result, completes⟩ := ih
    exact (exists_someCompletes member completes).imp fun _ => completes_oneOf.mpr
  | list _ ih =>
    obtain ⟨results, each⟩ := exists_forall₂ ih
    exact ⟨.arr results, completes_list.mpr ⟨_, results, rfl, rfl, each⟩⟩
  | map _ ih =>
    obtain ⟨results, each⟩ := exists_entrywise ih
    exact ⟨.obj results, completes_map.mpr ⟨_, results, rfl, rfl, each⟩⟩
  | @record fields isOpen entries _ extra present ih =>
    have each (entry : String × Json) (member : entry ∈ entries) :
        ∃ result, EntryCompletes fields isOpen entry result := by
      cases found : fields.find? fun field => field.name == entry.1 with
      | none => exact ⟨entry, rfl, by rw [found]; exact ⟨extra entry member found, rfl⟩⟩
      | some field =>
        obtain ⟨result, completes⟩ := ih entry member field found
        exact ⟨(entry.1, result), rfl, by rw [found]; exact completes⟩
    obtain ⟨results, each⟩ := exists_forall₂ each
    exact ⟨_, completes_record.mpr ⟨entries, results, rfl, each, present, rfl⟩⟩
  | plain unkeyed _ ih =>
    obtain ⟨result, completes⟩ := ih
    exact ⟨result, completes_keyedBy.mpr (.plain (KeyedBy.unkeyed_iff.mpr unkeyed) completes)⟩
  | keyed allowed _ ih =>
    simp only [completes_keyedBy] at ih
    obtain ⟨results, each⟩ := exists_entrywise ih
    exact ⟨_, completes_keyedBy.mpr
      (.keyed (Text.after?_eq_some.mpr rfl) allowed (alternativesGive_of_entrywise each))⟩

theorem conforms_iff {shape : Shape} : Conforms shape value ↔ ∃ result, Completes shape value result := by
  refine ⟨exists_completes_of_conforms, ?_⟩
  rintro ⟨result, completes⟩
  exact conforms_of_completes shape value result completes

end Shape

end TaskPlan
