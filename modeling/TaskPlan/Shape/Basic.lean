import TaskPlan.Json.Print

/-!
# Shapes of values

A `Shape` says what a value must look like. `Shape.describe` is the short text
that stands for it in messages.
-/

namespace TaskPlan

inductive Presence where
  | required
  | optional
  /-- filled in when it is absent -/
  | default (value : Json)
deriving DecidableEq, Repr

mutual

inductive Shape where
  /-- any value, null included -/
  | any
  | null
  | bool
  | int
  | number
  | str
  | literal (value : Json)
  /-- the first alternative that fits -/
  | oneOf (alternatives : List Shape)
  | list (inner : Shape)
  | map (inner : Shape)
  /-- a mapping with declared fields; an open one may have other keys too -/
  | record (fields : List Field) (isOpen : Bool)
  /-- the inner shape, or alternatives for the values of one of the discriminants -/
  | keyedBy (discriminants : List String) (inner : Shape)

inductive Field where
  | mk (name : String) (shape : Shape) (presence : Presence)

end

namespace Field

def name : Field → String
  | mk name _ _ => name

def shape : Field → Shape
  | mk _ shape _ => shape

def presence : Field → Presence
  | mk _ _ presence => presence

def required (name : String) (shape : Shape) : Field := mk name shape .required

def optional (name : String) (shape : Shape) : Field := mk name shape .optional

def withDefault (name : String) (shape : Shape) (value : Json) : Field :=
  mk name shape (.default value)

end Field

namespace Shape

instance : Inhabited Shape := ⟨.any⟩

instance : Inhabited Field := ⟨.required "" .any⟩

def enumeration (texts : List String) : Shape := .oneOf (texts.map fun text => .literal (.str text))

/-- The names of the fields that must be written out. -/
def requiredNames (fields : List Field) : List String :=
  fields.filterMap fun field =>
    match field.presence with
    | .required => some field.name
    | _ => none

def describeRecord (fields : List Field) : String :=
  match requiredNames fields with
  | [] => "mapping"
  | names => "mapping with " ++ String.intercalate ", " names

mutual

def describe : Shape → String
  | .any => "any value"
  | .null => "null"
  | .bool => "boolean"
  | .int => "integer"
  | .number => "number"
  | .str => "string"
  | .literal value => value.text
  | .oneOf alternatives => String.intercalate " | " (describeAll alternatives)
  | .list inner => "list of " ++ describe inner
  | .map inner => "mapping of " ++ describe inner
  | .record fields _ => describeRecord fields
  | .keyedBy discriminants inner =>
    describe inner ++ " (optionally keyed by " ++ String.intercalate ", " discriminants ++ ")"
termination_by structural shape => shape

def describeAll : List Shape → List String
  | [] => []
  | shape :: rest => describe shape :: describeAll rest
termination_by structural shapes => shapes

end

end Shape

end TaskPlan
