import TaskPlan.Error
import TaskPlan.KeyedBy.Basic
import TaskPlan.Shape.Basic

/-!
# Checking values against shapes

`Shape.check` collects every violation of a value and builds the value with the
defaults of absent fields filled in. `Shape.validate` gives that value if there
is no violation.
-/

namespace TaskPlan

namespace Shape

/-- The value as rebuilt by a check, with its violations in order. -/
structure Checked where
  value : Json
  violations : List Violation

namespace Checked

def ok (value : Json) : Checked := ⟨value, []⟩

def failed (value : Json) (path message : String) : Checked := ⟨value, [⟨path, message⟩]⟩

def fits (checked : Checked) : Bool := checked.violations.isEmpty

end Checked

abbrev Checker := (path : String) → Json → Checked

def joinPath (path key : String) : String := if path.isEmpty then key else path ++ "." ++ key

/-- Accepts the values that satisfy `test`; `description` is what else was expected. -/
def checkKind (description : String) (test : Json → Bool) : Checker := fun path value =>
  if test value then .ok value
  else .failed value path s!"expected {description}, got {value.kindName}"

/-! ### Containers -/

def checkItems (inner : Checker) (path : String) : (index : Nat) → List Json → List Checked
  | _, [] => []
  | index, item :: rest =>
    inner (joinPath path (toString index)) item :: checkItems inner path (index + 1) rest

def checkEntries (inner : Checker) (path : String) (entries : Fields) : List (String × Checked) :=
  entries.map fun (key, value) => (key, inner (joinPath path key) value)

/-- The mapping of checked entries, with their violations in order. -/
def gather (entries : List (String × Checked)) : Checked :=
  ⟨.obj (entries.map fun (key, checked) => (key, checked.value)),
    entries.flatMap fun (_, checked) => checked.violations⟩

def checkList (description : String) (inner : Checker) : Checker := fun path value =>
  match value with
  | .arr items =>
    let checked := checkItems inner path 0 items
    ⟨.arr (checked.map Checked.value), checked.flatMap Checked.violations⟩
  | _ => .failed value path s!"expected {description}, got {value.kindName}"

def checkMap (description : String) (inner : Checker) : Checker := fun path value =>
  match value with
  | .obj entries => gather (checkEntries inner path entries)
  | _ => .failed value path s!"expected {description}, got {value.kindName}"

/-! ### Keyed-by mappings -/

mutual

/-- A keyed-by mapping must name an allowed discriminant and hold a mapping of
alternatives, each of which may be keyed again; any other value goes to `inner`. -/
def checkKeyed (discriminants : List String) (inner : Checker) (path : String) : Json → Checked
  | .obj [(key, content)] =>
    match Text.after? KeyedBy.marker key with
    | none => inner path (.obj [(key, content)])
    | some name =>
      let place := joinPath path key
      if discriminants.contains name then
        let checked := checkContent discriminants inner place content
        ⟨.obj [(key, checked.value)], checked.violations⟩
      else
        .failed (.obj [(key, content)]) place
          ("cannot key by " ++ Text.quoted name ++ "; allowed: " ++
            String.intercalate ", " discriminants)
  | value => inner path value
termination_by structural value => value

def checkContent (discriminants : List String) (inner : Checker) (place : String) : Json → Checked
  | .obj alternatives => gather (checkAlternatives discriminants inner place alternatives)
  | content =>
    .failed content place s!"expected mapping of alternatives, got {content.kindName}"
termination_by structural value => value

def checkAlternatives (discriminants : List String) (inner : Checker) (place : String) :
    List (String × Json) → List (String × Checked)
  | [] => []
  | (key, value) :: rest =>
    (key, checkKeyed discriminants inner (joinPath place key) value) ::
      checkAlternatives discriminants inner place rest
termination_by structural values => values

end

/-! ### Records -/

structure FieldCheck where
  name : String
  presence : Presence
  check : Checker

/-- One entry of a record: that of a declared field is checked, another one is
kept by an open record and refused by a closed one. -/
def checkEntry (fields : List FieldCheck) (isOpen : Bool) (path : String)
    (done : Fields × List Violation) (entry : String × Json) : Fields × List Violation :=
  match fields.find? (fun field => field.name == entry.1) with
  | some field =>
    let checked := field.check (joinPath path entry.1) entry.2
    (done.1.insert entry.1 checked.value, done.2 ++ checked.violations)
  | none =>
    if isOpen then (done.1.insert entry.1 entry.2, done.2)
    else (done.1, done.2 ++ [⟨joinPath path entry.1, "extra keys not allowed"⟩])

/-- A declared field that is absent from `entries` gets its default, or is missed. -/
def fillField (entries : Fields) (path : String) (done : Fields × List Violation)
    (field : FieldCheck) : Fields × List Violation :=
  if entries.contains field.name then done
  else match field.presence with
    | .default value => (done.1.insert field.name value, done.2)
    | .required => (done.1, done.2 ++ [⟨joinPath path field.name, "required key not provided"⟩])
    | .optional => done

def checkRecord (description : String) (fields : List FieldCheck) (isOpen : Bool) : Checker :=
  fun path value =>
    match value with
    | .obj entries =>
      let present := entries.foldl (checkEntry fields isOpen path) ([], [])
      let filled := fields.foldl (fillField entries path) present
      ⟨.obj filled.1, filled.2⟩
    | _ => .failed value path s!"expected {description}, got {value.kindName}"

/-! ### Alternatives -/

/-- The literal fields of a record, which tell it from other records. -/
def tags (fields : List Field) : List (String × Json) :=
  fields.filterMap fun field =>
    match field.shape with
    | .literal value => some (field.name, value)
    | _ => none

/-- Whether a mapping has every literal field of a record, of which there is one,
with exactly its value. -/
def tagMatches (fields : List Field) (entries : Fields) : Bool :=
  !(tags fields).isEmpty && (tags fields).all fun (name, expected) =>
    match entries.get? name with
    | some value => value.same expected
    | none => false

/-- How far a mapping is from a record alternative: first whether its tags differ,
then the number of violations. Other alternatives and values have no rank. -/
def rank? (alternative : Shape) (value : Json) (checked : Checked) : Option (Bool × Nat) :=
  match alternative, value with
  | .record fields _, .obj entries => some (!tagMatches fields entries, checked.violations.length)
  | _, _ => none

def rankLess (a b : Bool × Nat) : Bool := (!a.1 && b.1) || (a.1 == b.1 && decide (a.2 < b.2))

def closest? (value : Json) (outcomes : List (Shape × Checked)) : Option ((Bool × Nat) × Checked) :=
  outcomes.foldl
    (fun best (alternative, checked) =>
      match rank? alternative value checked with
      | none => best
      | some rank =>
        match best with
        | none => some (rank, checked)
        | some (least, _) => if rankLess rank least then some (rank, checked) else best)
    none

/-- The first alternative that fits, else the closest record, else one violation
for all of them. -/
def select (description : String) (outcomes : List (Shape × Checked)) : Checker :=
  fun path value =>
    match outcomes.find? (fun outcome => outcome.2.fits) with
    | some (_, checked) => checked
    | none =>
      match closest? value outcomes with
      | some (_, checked) => checked
      | none => .failed value path s!"value {value.text} does not match {description}"

/-! ### The check -/

def isInt : Json → Bool
  | .num (.int _ _) => true
  | _ => false

def isNumber : Json → Bool
  | .num _ => true
  | _ => false

def isBool : Json → Bool
  | .bool _ => true
  | _ => false

def isStr : Json → Bool
  | .str _ => true
  | _ => false

mutual

def check : Shape → (path : String) → Json → Checked
  | .any, _, value => .ok value
  | .null, path, value => checkKind "null" (· == .null) path value
  | .bool, path, value => checkKind "boolean" isBool path value
  | .int, path, value => checkKind "integer" isInt path value
  | .number, path, value => checkKind "number" isNumber path value
  | .str, path, value => checkKind "string" isStr path value
  | .literal expected, path, value =>
    if value.same expected then .ok value
    else .failed value path s!"expected {expected.text}, got {value.text}"
  | .oneOf alternatives, path, value =>
    select (describe (.oneOf alternatives)) (outcomes alternatives path value) path value
  | .list inner, path, value =>
    checkList (describe (.list inner)) (fun path value => check inner path value) path value
  | .map inner, path, value =>
    checkMap (describe (.map inner)) (fun path value => check inner path value) path value
  | .record fields isOpen, path, value =>
    checkRecord (describe (.record fields isOpen)) (fieldChecks fields) isOpen path value
  | .keyedBy discriminants inner, path, value =>
    checkKeyed discriminants (fun path value => check inner path value) path value
termination_by structural shape => shape

def outcomes : List Shape → (path : String) → Json → List (Shape × Checked)
  | [], _, _ => []
  | shape :: rest, path, value => (shape, check shape path value) :: outcomes rest path value
termination_by structural shapes => shapes

def fieldChecks : List Field → List FieldCheck
  | [] => []
  | field :: rest => fieldCheck field :: fieldChecks rest
termination_by structural fields => fields

def fieldCheck : Field → FieldCheck
  | .mk name shape presence => ⟨name, presence, fun path value => check shape path value⟩
termination_by structural field => field

end

/-- The value with defaults filled in, if it fits the shape; `context` opens the
report of its violations otherwise. -/
def validate (shape : Shape) (value : Json) (context : String) : Result Json :=
  let checked := check shape "" value
  if checked.fits then .ok checked.value else .error (.schema context checked.violations)

end Shape

end TaskPlan
