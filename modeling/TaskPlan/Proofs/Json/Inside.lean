import TaskPlan.Json.Basic

/-!
# Parts of values

A part of a value is the value itself or a part of an item or of the value of an entry in
it. A value has distinct keys if no mapping at any depth has two entries for a key
(`Distinct`), which can be told level by level. A path of keys leads to a part through mappings
only (`exists_obj_of_leads`).
-/

namespace TaskPlan

/-- The value itself, or a part of an item or of the value of an entry in it. -/
inductive Json.Inside : (part value : Json) → Prop where
  | whole (value : Json) : Inside value value
  | item {part item : Json} {items : List Json} (member : item ∈ items) (inside : Inside part item) :
      Inside part (.arr items)
  | entry {part : Json} {fields : Fields} {entry : String × Json} (member : entry ∈ fields)
      (inside : Inside part entry.2) : Inside part (.obj fields)

namespace Json

/-- The entries of each mapping in the value have different keys, as those of a mapping that
was read or built do. -/
def Distinct (value : Json) : Prop := ∀ fields : Fields, (Json.obj fields).Inside value → fields.keys.Nodup

theorem distinct_leaf {value : Json} (noItems : value.arr? = none) (noEntries : value.obj? = none) :
    value.Distinct := by
  intro fields inside
  cases inside with
  | whole => cases noEntries
  | item => cases noItems
  | entry => cases noEntries

theorem distinct_arr {items : List Json} : Distinct (.arr items) ↔ ∀ item ∈ items, item.Distinct := by
  constructor
  · exact fun distinct item member fields inside => distinct fields (.item member inside)
  · intro distinct fields inside
    cases inside with
    | item member inside => exact distinct _ member fields inside

theorem distinct_obj {fields : Fields} :
    Distinct (.obj fields) ↔ fields.keys.Nodup ∧ ∀ entry ∈ fields, entry.2.Distinct := by
  constructor
  · exact fun distinct => ⟨distinct fields (.whole _),
      fun entry member inner inside => distinct inner (.entry member inside)⟩
  · rintro ⟨keys, distinct⟩ inner inside
    cases inside with
    | whole => exact keys
    | entry member inside => exact distinct _ member inner inside

/-! ### At the end of a path -/

/-- The value at the end of a path of keys. -/
def at? : List String → Json → Option Json
  | [], value => some value
  | key :: path, value => (value.get? key).bind (at? path)

variable {value : Json} {fields : Fields} {path lead : List String}

theorem eq_obj (mapping : value.obj? = some fields) : value = .obj fields := by
  cases value <;> cases mapping
  rfl

theorem at?_append (path more : List String) (value : Json) :
    value.at? (path ++ more) = (value.at? path).bind (at? more) := by
  induction path generalizing value with
  | nil => rfl
  | cons key path ih =>
    rw [List.cons_append, at?, at?, Option.bind_assoc]
    exact congrArg (Option.bind (value.get? key)) (funext ih)

/-- What is before a mapping on the way is a mapping. -/
theorem exists_obj_of_leads (found : value.at? path = some (.obj fields)) (leads : lead <+: path) :
    ∃ inner, value.at? lead = some (.obj inner) := by
  obtain ⟨more, rfl⟩ := leads
  rw [at?_append] at found
  obtain ⟨between, here, below⟩ := Option.bind_eq_some_iff.mp found
  cases more with
  | nil =>
    cases below
    exact ⟨fields, here⟩
  | cons key more =>
    obtain ⟨next, entry, -⟩ := Option.bind_eq_some_iff.mp below
    obtain ⟨inner, mapping, -⟩ := Option.bind_eq_some_iff.mp entry
    exact ⟨inner, by rw [here, eq_obj mapping]⟩

end Json

end TaskPlan
