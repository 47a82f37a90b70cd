import TaskPlan.Proofs.Order.Finite
import TaskPlan.Task.Node

/-!
# Tasks as data

A decoder is lawful for an encoder if it reads back what was written. Lists and maps of
such values are read back (`asList_lawful`, `asMap_lawful`), and so are directives at any
depth, workers of every kind and whole tasks (`Task.decode?_encode`).
-/

namespace TaskPlan

namespace Json

variable {α : Type} {encode : α → Json} {decode : Json → Option α}

/-- What is written is read back. -/
def Lawful (encode : α → Json) (decode : Json → Option α) : Prop := ∀ a, decode (encode a) = some a

theorem mapM_written {β : Type} {write : α → β} {read : β → Option α}
    (lawful : ∀ a, read (write a) = some a) (items : List α) :
    (items.map write).mapM read = some items := by
  induction items with
  | nil => rfl
  | cons item rest ih =>
    rw [List.map_cons, List.mapM_cons, lawful, ih]
    rfl

theorem asList_lawful (lawful : Lawful encode decode) :
    Lawful (fun items => .arr (items.map encode)) (asList decode) := mapM_written lawful

theorem asMap_lawful (lawful : Lawful encode decode) : Lawful (ofMap encode) (asMap decode) := by
  intro m
  have entries : (m.toList.map fun entry => (entry.1, encode entry.2)).mapM
      (fun entry => (decode entry.2).map fun value => (entry.1, value)) = some m.toList :=
    mapM_written (fun entry => by simp only [lawful entry.2, Option.map_some]) m.toList
  rw [ofMap, asMap, entries, Option.map_some, Option.some.injEq]
  exact KeyMap.ext_get? (KeyMap.get?_ofList_toList m)

theorem asStr_lawful : Lawful .str asStr := fun _ => rfl

theorem asAny_lawful : Lawful id asAny := fun _ => rfl

theorem asList_asAny (items : List Json) : asList asAny (.arr items) = some items := by
  have read : asList asAny (.arr (items.map id)) = some items := asList_lawful asAny_lawful items
  rwa [List.map_id] at read

theorem optional_of_ne_null (decode : Json → Option α) {value : Json} (there : value ≠ .null) :
    optional decode value = (decode value).map some := by
  cases value with
  | null => exact absurd rfl there
  | _ => rfl

end Json

mutual

theorem Directive.decode?_encode : ∀ directive : Directive,
    Directive.decode? directive.encode = some directive
  | .indexSearch paths => by
    rw [encode, decode?, Json.ofStrings, Json.asList_lawful Json.asStr_lawful paths, Option.map_some]
  | .skipUnlessChanged patterns => by
    rw [encode, decode?, Json.ofStrings, Json.asList_lawful Json.asStr_lawful patterns, Option.map_some]
  | .anyOf members => by
    rw [encode, decode?, Directive.decodeAll?_encodeAll members, Option.map_some]

theorem Directive.decodeAll?_encodeAll : ∀ members : List Directive,
    Directive.decodeAll? (Directive.encodeAll members) = some members
  | [] => rfl
  | first :: rest => by
    rw [encodeAll, decodeAll?, Directive.decode?_encode first, Directive.decodeAll?_encodeAll rest]
    rfl

end

theorem Artifact.decode?_encode (artifact : Artifact) : decode? artifact.encode = some artifact := rfl

theorem WorkerKind.find?_name (kind : WorkerKind) : find? kind.name = some kind := by
  cases kind <;> rfl

namespace Worker

/-- The settings of a worker stand beside the name of its implementation. -/
theorem decode?_named (kind : WorkerKind) (settings : Fields) :
    decode? (.obj (("implementation", .str kind.name) :: settings)) =
      decodeSettings? (.obj (Fields.erase settings "implementation")) kind := by
  have named : (Fields.get? (("implementation", .str kind.name) :: settings) "implementation").bind
      Json.asStr = some kind.name := by
    rw [Fields.get?, if_pos rfl]
    rfl
  have rest : Fields.erase (("implementation", .str kind.name) :: settings) "implementation" =
      Fields.erase settings "implementation" := by
    simp [Fields.erase]
  simp only [decode?, named, WorkerKind.find?_name, rest, Option.bind_eq_bind, Option.bind_some]

theorem decodeSettings?_encodeSettings (worker : Worker) :
    decodeSettings? (.obj worker.encodeSettings) worker.kind = some worker := by
  have env := Json.asMap_lawful Json.asAny_lawful
  have artifacts := Json.asList_lawful Artifact.decode?_encode
  cases worker <;>
    simp [decodeSettings?, encodeSettings, kind, Json.members?, Fields.get?, Json.needed,
      Json.defaulted, Json.asList_asAny, env _, artifacts _, Json.word?_ofWord, Json.asStr_lawful _,
      Json.asAny, Json.asFields, Json.obj?]

theorem decode?_encode (worker : Worker) : decode? worker.encode = some worker := by
  have plain : Fields.erase worker.encodeSettings "implementation" = worker.encodeSettings := by
    cases worker <;> rfl
  rw [encode, decode?_named, plain, decodeSettings?_encodeSettings]

end Worker

namespace Task

theorem encodeOptimization_lawful :
    Json.Lawful encodeOptimization (Json.optional Directive.decode?) := by
  rintro (_ | directive)
  · rfl
  · have written : directive.encode ≠ .null := by cases directive <;> nofun
    rw [encodeOptimization, Json.optional_of_ne_null _ written, Directive.decode?_encode,
      Option.map_some]

/-- A task is read back from what it is written as. -/
theorem decode?_encode (task : Task) : decode? task.encode = some task := by
  have attributes := Json.asMap_lawful Json.asAny_lawful task.attributes
  have dependencies := Json.asMap_lawful Json.asStr_lawful task.dependencies
  have optimization := encodeOptimization_lawful task.optimization
  have worker := Worker.decode?_encode task.worker
  simp [decode?, encode, fieldNames, Json.members?, Fields.get?, Json.needed, Json.defaulted,
    attributes, dependencies, optimization, worker, Json.asStr_lawful _, Json.asAny]

end Task

end TaskPlan
